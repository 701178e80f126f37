import ResilientProxy.Binary64

/-!
# Shortest decimal text

A floating-point number is written with the fewest significant digits that still round to it; of
several such numerals the nearest is taken. The digits are found by trying 1, 2, … 17 of them: if a
decimal grid has a point in the interval of reals that round to a number, then one of the number's
two neighbours on that grid lies in it.
-/

namespace ResilientProxy

/-- How many decimal digits `n` has. -/
def decimalLength (n : Nat) : Nat := (Nat.toDigits 10 n).length

/-- The exponent of the largest power of ten that is at most `q`, for positive `q`. -/
def floorLog10 (q : Rat) : Int :=
  let k : Int := (decimalLength q.num.natAbs : Int) - (decimalLength q.den : Int)
  if (10 : Rat) ^ k ≤ q then k else k - 1

/-- The positive number `digits * 10 ^ exponent`. -/
structure Numeral where
  digits : Nat
  exponent : Int
  deriving DecidableEq, Repr

namespace Numeral

def value (n : Numeral) : Rat := (n.digits : Rat) * (10 : Rat) ^ n.exponent

/-- The neighbour above on the same grid. -/
def next (n : Numeral) : Numeral := { n with digits := n.digits + 1 }

/-- The largest numeral of `count` digits that is at most `q`. -/
def below (q : Rat) (count : Nat) : Numeral :=
  let e := floorLog10 q - (count : Int) + 1
  ⟨(q / (10 : Rat) ^ e).floor.toNat, e⟩

end Numeral

namespace Binary64

/-- Whether every reader that rounds to nearest takes `x` for the representable number `q > 0`. -/
def roundsTo (q x : Rat) : Bool :=
  let unit := (2 : Rat) ^ unitExponent q
  let significand := q / unit
  let gapBelow :=
    if significand = (fractionLimit : Rat) ∧ unitExponent q ≠ -1074 then unit / 2 else unit
  let low := q - gapBelow / 2
  let high := q + unit / 2
  if significand.num % 2 = 0 then decide (low ≤ x ∧ x ≤ high) else decide (low < x ∧ x < high)

/-- The shortest numeral of at most `limit` digits, from `count` digits on, that rounds to `q`. -/
def shortestFrom (q : Rat) (count : Nat) : Nat → Numeral
  | 0 => Numeral.below q count
  | limit + 1 =>
    let low := Numeral.below q count
    let high := low.next
    match roundsTo q low.value, roundsTo q high.value with
    | true, false => low
    | false, true => high
    | true, true =>
      let fromLow := q - low.value
      let toHigh := high.value - q
      if fromLow < toHigh then low
      else if toHigh < fromLow then high
      else if low.digits % 2 = 0 then low
      else high
    | false, false => shortestFrom q (count + 1) limit

/-- The shortest numeral that rounds to the representable number `q > 0`. -/
def shortest (q : Rat) : Numeral := shortestFrom q 1 17

/-- Puts the decimal point behind the first `n` characters. -/
def pointAfter (n : Nat) (digits : List Char) : List Char :=
  digits.take n ++ '.' :: digits.drop n

/-- An exponent with its sign, which is written even where it is positive. -/
def exponentText (e : Int) : List Char :=
  (if e < 0 then '-' else '+') :: Nat.toDigits 10 e.natAbs

/-- Writes a number from `0.00001` to below `10 ^ 16` positionally, with at least one digit after
the point, and any other with an exponent. -/
def numeralText (n : Numeral) : List Char :=
  let digits := ((Nat.toDigits 10 n.digits).reverse.dropWhile (· == '0')).reverse
  let top := n.exponent + (decimalLength n.digits : Int) - 1
  if -5 ≤ top ∧ top < 0 then
    '0' :: '.' :: List.replicate (-top - 1).toNat '0' ++ digits
  else if 0 ≤ top ∧ top < 16 then
    let whole := top.toNat + 1
    if digits.length ≤ whole then
      digits ++ List.replicate (whole - digits.length) '0' ++ ['.', '0']
    else pointAfter whole digits
  else
    (if digits.length = 1 then digits else pointAfter 1 digits) ++ 'e' :: exponentText top

/-- The text of the finite number `q ≥ 0`. -/
def magnitudeText (q : Rat) : String :=
  if q = 0 then "0.0" else String.ofList (numeralText (shortest q))

end Binary64

end ResilientProxy
