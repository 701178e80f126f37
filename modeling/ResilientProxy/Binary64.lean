/-!
# Binary floating point, exactly

A 64-bit floating-point number is an exact rational, one of two infinities, or not a number. Each
operation computes the exact rational result and rounds once, to the nearest representable number
with ties to even. Both zeros are the rational `0`: no operation here can tell them apart.

Because a finite number is a `Rat`, bounds on the operations are inequalities of rationals.
-/

namespace ResilientProxy

/-- The nearest whole number; a half goes to the even neighbour. -/
def nearestEven (q : Rat) : Int :=
  let n := q.floor
  let rest := q - n
  if rest < 1 / 2 then n
  else if 1 / 2 < rest then n + 1
  else if n % 2 = 0 then n
  else n + 1

/-- The exponent of the largest power of two that is at most `q`, for positive `q`. -/
def floorLog2 (q : Rat) : Int :=
  let k : Int := (q.num.natAbs.log2 : Int) - (q.den.log2 : Int)
  if (2 : Rat) ^ k ≤ q then k else k - 1

/-- A 64-bit floating-point number. -/
inductive Binary64 where
  | notANumber
  | negativeInfinity
  | positiveInfinity
  | finite (value : Rat)
  deriving DecidableEq, Repr

namespace Binary64

/-- Near `q`, representable numbers are the multiples of `2 ^ unitExponent q`: 53 significant binary
digits, but none below `2 ^ (-1074)`. -/
def unitExponent (q : Rat) : Int := max (floorLog2 q.abs - 52) (-1074)

/-- The multiple of `2 ^ e` nearest to `q`. -/
def toGrid (e : Int) (q : Rat) : Rat := (nearestEven (q / (2 : Rat) ^ e) : Rat) * (2 : Rat) ^ e

/-- The representable number nearest to `q`; an infinity from `2 ^ 1024` on. -/
def round (q : Rat) : Binary64 :=
  let r := toGrid (unitExponent q) q
  if (2 : Rat) ^ (1024 : Nat) ≤ r then positiveInfinity
  else if r ≤ -(2 : Rat) ^ (1024 : Nat) then negativeInfinity
  else finite r

def ofNat (n : Nat) : Binary64 := round n

/-- A finite number scaled to the sign of an infinity. -/
def infinityLike (positive : Bool) : Binary64 :=
  if positive then positiveInfinity else negativeInfinity

def add : Binary64 → Binary64 → Binary64
  | notANumber, _ | _, notANumber => notANumber
  | positiveInfinity, negativeInfinity | negativeInfinity, positiveInfinity => notANumber
  | positiveInfinity, _ | _, positiveInfinity => positiveInfinity
  | negativeInfinity, _ | _, negativeInfinity => negativeInfinity
  | finite a, finite b => round (a + b)

def neg : Binary64 → Binary64
  | notANumber => notANumber
  | negativeInfinity => positiveInfinity
  | positiveInfinity => negativeInfinity
  | finite a => finite (-a)

def sub (a b : Binary64) : Binary64 := add a (neg b)

/-- An infinity times a finite number: an infinity of the product's sign, and no number for zero. -/
def scaleInfinity (positive : Bool) (q : Rat) : Binary64 :=
  if q = 0 then notANumber else infinityLike (positive == decide (0 < q))

def mul : Binary64 → Binary64 → Binary64
  | notANumber, _ | _, notANumber => notANumber
  | positiveInfinity, positiveInfinity | negativeInfinity, negativeInfinity => positiveInfinity
  | positiveInfinity, negativeInfinity | negativeInfinity, positiveInfinity => negativeInfinity
  | positiveInfinity, finite q | finite q, positiveInfinity => scaleInfinity true q
  | negativeInfinity, finite q | finite q, negativeInfinity => scaleInfinity false q
  | finite a, finite b => round (a * b)

instance : Add Binary64 := ⟨add⟩
instance : Sub Binary64 := ⟨sub⟩
instance : Mul Binary64 := ⟨mul⟩

/-- The order of floating-point numbers; what is not a number stands in no order. -/
def le : Binary64 → Binary64 → Bool
  | notANumber, _ | _, notANumber => false
  | negativeInfinity, _ | _, positiveInfinity => true
  | positiveInfinity, _ | _, negativeInfinity => false
  | finite a, finite b => decide (a ≤ b)

instance : LE Binary64 := ⟨fun a b => a.le b = true⟩

instance (a b : Binary64) : Decidable (a ≤ b) := inferInstanceAs (Decidable (a.le b = true))

/-- `2 ^ n`, infinite from `n = 1024` on. -/
def twoToThe (n : Nat) : Binary64 :=
  if n < 1024 then finite ((2 : Rat) ^ n) else positiveInfinity

/-- The share of a whole that `u` stands for: from `0` to `1`, and `0` where `u` is not a number. -/
def share : Binary64 → Rat
  | notANumber | negativeInfinity => 0
  | positiveInfinity => 1
  | finite q => if q ≤ 0 then 0 else if 1 ≤ q then 1 else q

/-- What 52 bits of a fraction can tell apart: `2 ^ 52`. -/
def fractionLimit : Nat := 4503599627370496

/-- What eleven bits of an exponent can tell apart: `2 ^ 11`. -/
def exponentLimit : Nat := 2048

/-- Reads the 64-bit interchange format: one sign bit, eleven exponent bits, 52 fraction bits. -/
def ofBits (w : UInt64) : Binary64 :=
  let negative : Bool := w.toNat / fractionLimit / exponentLimit == 1
  let exponent : Nat := w.toNat / fractionLimit % exponentLimit
  let fraction : Nat := w.toNat % fractionLimit
  if exponent + 1 = exponentLimit then
    if fraction = 0 then infinityLike !negative else notANumber
  else
    let magnitude : Rat :=
      if exponent = 0 then (fraction : Rat) * (2 : Rat) ^ (-1074 : Int)
      else ((fractionLimit + fraction : Nat) : Rat) * (2 : Rat) ^ ((exponent : Int) - 1075)
    finite (if negative then -magnitude else magnitude)

@[simp] theorem add_finite (a b : Rat) : finite a + finite b = round (a + b) := rfl

@[simp] theorem mul_finite (a b : Rat) : finite a * finite b = round (a * b) := rfl

theorem share_nonneg (u : Binary64) : 0 ≤ u.share := by
  unfold share
  split
  · exact Rat.le_refl
  · exact Rat.le_refl
  · decide
  · split
    · exact Rat.le_refl
    · split
      · decide
      · grind

theorem share_le_one (u : Binary64) : u.share ≤ 1 := by
  unfold share
  split
  · decide
  · decide
  · exact Rat.le_refl
  · split
    · decide
    · split
      · exact Rat.le_refl
      · grind

end Binary64

end ResilientProxy
