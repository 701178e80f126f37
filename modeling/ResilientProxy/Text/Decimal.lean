import ResilientProxy.Binary64

/-!
# Fixed decimal places

A number written with a fixed count of digits behind the point, rounded to nearest on its exact
value, ties to an even last digit.
-/

namespace ResilientProxy

/-- `digits` with zeros in front, at least `width` long. -/
def padded (width : Nat) (digits : List Char) : List Char :=
  List.replicate (width - digits.length) '0' ++ digits

/-- The number `q ≥ 0` with `places` digits behind the point. -/
def fixedText (places : Nat) (q : Rat) : String :=
  let scaled := (nearestEven (q * (10 : Rat) ^ places)).toNat
  let digits := padded (places + 1) (Nat.toDigits 10 scaled)
  let whole := digits.length - places
  String.ofList (digits.take whole ++ '.' :: digits.drop whole)

end ResilientProxy
