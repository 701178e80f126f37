/-!
# The hold flag

A flag that all calls of a proxy share. The first call to fail engages it, and only that call is
told so; the first to succeed releases it. Between the two, a burst of failures is in progress.
-/

namespace ResilientProxy

structure HoldFlag where
  engaged : Bool
  deriving DecidableEq, Repr

namespace HoldFlag

def released : HoldFlag := ⟨false⟩

/-- Engages the flag, and tells whether it was released before. -/
def engage (h : HoldFlag) : Bool × HoldFlag := (!h.engaged, ⟨true⟩)

def release (_ : HoldFlag) : HoldFlag := ⟨false⟩

@[simp] theorem engaged_engage (h : HoldFlag) : h.engage.2.engaged = true := rfl

@[simp] theorem engaged_release (h : HoldFlag) : h.release.engaged = false := rfl

end HoldFlag

end ResilientProxy
