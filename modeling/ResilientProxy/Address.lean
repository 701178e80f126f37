import ResilientProxy.Text.Blank

/-!
# Endpoint addresses

The address of the remote service: any text that is not blank, kept as it was given.
-/

namespace ResilientProxy

structure Address where
  text : String
  not_blank : isBlank text = false
  deriving DecidableEq, Repr

namespace Address

/-- `text` as an address, unless it is blank. -/
def ofText? (text : String) : Option Address :=
  if h : isBlank text = false then some ⟨text, h⟩ else none

theorem ofText?_eq_none_iff {text : String} : ofText? text = none ↔ isBlank text = true := by
  unfold ofText?
  split <;> simp_all

theorem text_of_ofText? {text : String} {a : Address} (h : ofText? text = some a) :
    a.text = text := by
  unfold ofText? at h
  split at h <;> simp_all
  subst h
  rfl

end Address

end ResilientProxy
