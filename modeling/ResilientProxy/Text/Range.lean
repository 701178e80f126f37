/-!
# Ranges of code points

Classes of characters are given by the first and last code points of their ranges.
-/

namespace ResilientProxy

/-- Whether the code point of `c` lies in one of the ranges, whose ends are in them. -/
def liesIn (ranges : List (Nat × Nat)) (c : Char) : Bool :=
  ranges.any fun r => decide (r.1 ≤ c.toNat ∧ c.toNat ≤ r.2)

theorem liesIn_iff {ranges : List (Nat × Nat)} {c : Char} :
    liesIn ranges c ↔ ∃ r ∈ ranges, r.1 ≤ c.toNat ∧ c.toNat ≤ r.2 := by
  simp [liesIn]

end ResilientProxy
