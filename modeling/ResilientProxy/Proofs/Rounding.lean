import Mathlib.Algebra.Order.Field.Power
import Mathlib.Tactic.Linarith
import Mathlib.Tactic.NormNum
import Mathlib.Tactic.Positivity
import Mathlib.Tactic.Ring
import ResilientProxy.Binary64

/-!
# Rounding to the nearest representable number

What rounding does to a number that is not negative: it errs by half a unit of the last place at
most, it keeps the order, and a representable number it leaves as it is. The unit of the last place
is a power of two that the size of the number decides, so each of these facts is first one about a
grid of equal spacing and then one about numbers between two powers of two.
-/

namespace ResilientProxy

section

variable {q r : Rat} {n : Int}

theorem abs_nearestEven_sub_le (q : Rat) : |(nearestEven q : Rat) - q| ≤ 1 / 2 := by
  have hle := Rat.floor_le q
  have hlt := Rat.lt_floor_add_one q
  push_cast at hlt
  simp only [nearestEven]
  rw [abs_le]
  split
  · constructor <;> linarith
  split
  · push_cast
    constructor <;> linarith
  split
  · constructor <;> linarith
  · push_cast
    constructor <;> linarith

theorem nearestEven_eq_of_abs_lt (h : |(n : Rat) - q| < 1 / 2) : nearestEven q = n := by
  obtain ⟨hge, hle⟩ := abs_le.mp (abs_nearestEven_sub_le q)
  obtain ⟨hgt, hlt⟩ := abs_lt.mp h
  have hupper : ((nearestEven q : Int) : Rat) < (n + 1 : Int) := by
    push_cast
    linarith
  have hlower : ((n - 1 : Int) : Rat) < nearestEven q := by
    push_cast
    linarith
  have := Int.cast_lt.mp hupper
  have := Int.cast_lt.mp hlower
  omega

@[simp] theorem nearestEven_intCast (n : Int) : nearestEven (n : Rat) = n :=
  nearestEven_eq_of_abs_lt (by norm_num)

@[simp] theorem nearestEven_zero : nearestEven 0 = 0 := by simpa using nearestEven_intCast 0

theorem nearestEven_mono (h : q ≤ r) : nearestEven q ≤ nearestEven r := by
  by_contra hlt
  have hone : (nearestEven r : Rat) + 1 ≤ nearestEven q := by exact_mod_cast not_le.mp hlt
  obtain ⟨-, hq⟩ := abs_le.mp (abs_nearestEven_sub_le q)
  obtain ⟨hr, -⟩ := abs_le.mp (abs_nearestEven_sub_le r)
  -- two numbers that round past each other are one and the same half
  have heq : q = r := by linarith
  exact hlt (heq ▸ le_rfl)

theorem natAbs_num_div_den (h : 0 ≤ q) : (q.num.natAbs : Rat) / q.den = q := by
  have habs : ((q.num.natAbs : Int) : Rat) = q.num := by
    rw [Int.natAbs_of_nonneg (Rat.num_nonneg.mpr h)]
  rw [← Int.cast_natCast, habs, Rat.num_div_den]

theorem two_zpow_pos (e : Int) : (0 : Rat) < 2 ^ e := zpow_pos (by norm_num) e

theorem two_zpow_add (e f : Int) : (2 : Rat) ^ (e + f) = 2 ^ e * 2 ^ f :=
  zpow_add₀ (by norm_num) e f

theorem two_zpow_le {e f : Int} (h : e ≤ f) : (2 : Rat) ^ e ≤ 2 ^ f :=
  zpow_le_zpow_right₀ (by norm_num) h

theorem two_zpow_lt {e f : Int} (h : (2 : Rat) ^ e < 2 ^ f) : e < f :=
  (zpow_lt_zpow_iff_right₀ (by norm_num)).mp h

/-- How many binary digits numerator and denominator have decides the size of a number up to a
factor of two. -/
theorem log2_bounds (h : 0 < q) :
    (2 : Rat) ^ ((q.num.natAbs.log2 : Int) - q.den.log2 - 1) ≤ q ∧
      q < 2 ^ ((q.num.natAbs.log2 : Int) - q.den.log2 + 1) := by
  have hnum : q.num.natAbs ≠ 0 := Int.natAbs_ne_zero.mpr (Rat.num_pos.mpr h).ne'
  have hden : (0 : Rat) < q.den := by exact_mod_cast q.den_pos
  have hnumLow : (2 : Rat) ^ (q.num.natAbs.log2 : Int) ≤ q.num.natAbs := by
    exact_mod_cast Nat.log2_self_le hnum
  have hnumHigh : (q.num.natAbs : Rat) < 2 ^ ((q.num.natAbs.log2 : Int) + 1) := by
    exact_mod_cast Nat.lt_log2_self
  have hdenLow : (2 : Rat) ^ (q.den.log2 : Int) ≤ q.den := by
    exact_mod_cast Nat.log2_self_le q.den_nz
  have hdenHigh : (q.den : Rat) ≤ 2 ^ ((q.den.log2 : Int) + 1) := by
    exact_mod_cast (Nat.lt_log2_self (n := q.den)).le
  generalize (q.num.natAbs.log2 : Int) = a at hnumLow hnumHigh ⊢
  generalize (q.den.log2 : Int) = b at hdenLow hdenHigh ⊢
  constructor
  · conv_rhs => rw [← natAbs_num_div_den h.le]
    rw [le_div_iff₀ hden]
    calc (2 : Rat) ^ (a - b - 1) * q.den ≤ 2 ^ (a - b - 1) * 2 ^ (b + 1) :=
          mul_le_mul_of_nonneg_left hdenHigh (two_zpow_pos _).le
      _ = 2 ^ a := by rw [← two_zpow_add]; congr 1; ring
      _ ≤ q.num.natAbs := hnumLow
  · conv_lhs => rw [← natAbs_num_div_den h.le]
    rw [div_lt_iff₀ hden]
    calc (q.num.natAbs : Rat) < 2 ^ (a + 1) := hnumHigh
      _ = 2 ^ (a - b + 1) * 2 ^ b := by rw [← two_zpow_add]; congr 1; ring
      _ ≤ 2 ^ (a - b + 1) * q.den := mul_le_mul_of_nonneg_left hdenLow (two_zpow_pos _).le

/-- A positive number lies between two neighbouring powers of two. -/
theorem floorLog2_spec (h : 0 < q) : (2 : Rat) ^ floorLog2 q ≤ q ∧ q < 2 ^ (floorLog2 q + 1) := by
  obtain ⟨hlow, hhigh⟩ := log2_bounds h
  simp only [floorLog2]
  split
  · exact ⟨‹_›, hhigh⟩
  · refine ⟨hlow, ?_⟩
    rw [sub_add_cancel]
    exact not_le.mp ‹_›

end

namespace Binary64

/-- The representable number nearest to `q`, were there no largest one. -/
def nearest (q : Rat) : Rat := toGrid (unitExponent q) q

section

variable {q r : Rat} {e : Int}

theorem abs_toGrid_sub_le (e : Int) (q : Rat) : |toGrid e q - q| ≤ 2 ^ e / 2 := by
  have hpos := two_zpow_pos e
  have hround := abs_nearestEven_sub_le (q / 2 ^ e)
  have hscale : toGrid e q - q = (nearestEven (q / 2 ^ e) - q / 2 ^ e) * 2 ^ e := by
    rw [toGrid, sub_mul, div_mul_cancel₀ q hpos.ne']
  rw [hscale, abs_mul, abs_of_pos hpos]
  calc |(nearestEven (q / 2 ^ e) : Rat) - q / 2 ^ e| * 2 ^ e ≤ 1 / 2 * 2 ^ e :=
        mul_le_mul_of_nonneg_right hround hpos.le
    _ = 2 ^ e / 2 := by ring

theorem toGrid_mono (e : Int) (h : q ≤ r) : toGrid e q ≤ toGrid e r := by
  have hpos := two_zpow_pos e
  have hround := nearestEven_mono (div_le_div_of_nonneg_right h hpos.le)
  exact mul_le_mul_of_nonneg_right (Int.cast_le.mpr hround) hpos.le

/-- A number on a grid is left as it is. -/
theorem toGrid_multiple (e : Int) (n : Int) : toGrid e (n * 2 ^ e) = n * 2 ^ e := by
  rw [toGrid, mul_div_cancel_right₀ _ (two_zpow_pos e).ne', nearestEven_intCast]

/-- A number on a grid is on every finer one. -/
theorem toGrid_multiple_of_le {f : Int} (h : e ≤ f) (n : Int) :
    toGrid e (n * 2 ^ f) = n * 2 ^ f := by
  obtain ⟨k, rfl⟩ := Int.le.dest h
  have hfine : (n : Rat) * 2 ^ (e + k) = ((n * 2 ^ k : Int) : Rat) * 2 ^ e := by
    rw [two_zpow_add]
    push_cast
    rw [zpow_natCast]
    ring
  rw [hfine, toGrid_multiple]

theorem toGrid_two_zpow {f : Int} (h : e ≤ f) : toGrid e (2 ^ f) = 2 ^ f := by
  simpa using toGrid_multiple_of_le h 1

theorem unitExponent_eq (h : 0 ≤ q) : unitExponent q = max (floorLog2 q - 52) (-1074) := by
  rw [unitExponent, Rat.abs_of_nonneg h]

theorem le_unitExponent (q : Rat) : -1074 ≤ unitExponent q := le_max_right _ _

/-- There are 53 binary digits from the unit of the last place up. -/
theorem lt_of_unitExponent (h : 0 ≤ q) : q < 2 ^ (unitExponent q + 53) := by
  obtain rfl | hpos := h.eq_or_lt
  · exact two_zpow_pos _
  calc q < 2 ^ (floorLog2 q + 1) := (floorLog2_spec hpos).2
    _ ≤ 2 ^ (unitExponent q + 53) := two_zpow_le (by rw [unitExponent_eq h]; omega)

/-- Above the smallest grid all 53 binary digits are in use. -/
theorem two_zpow_le_of_unitExponent (h : 0 < q) (he : unitExponent q ≠ -1074) :
    2 ^ (unitExponent q + 52) ≤ q := by
  calc (2 : Rat) ^ (unitExponent q + 52) ≤ 2 ^ floorLog2 q :=
        two_zpow_le (by rw [unitExponent_eq h.le] at he ⊢; omega)
    _ ≤ q := (floorLog2_spec h).1

theorem unitExponent_le (h : 0 < q) (he : -1074 ≤ e) (hlt : q < 2 ^ (e + 53)) :
    unitExponent q ≤ e := by
  have hlog := two_zpow_lt ((floorLog2_spec h).1.trans_lt hlt)
  rw [unitExponent_eq h.le]
  omega

theorem unitExponent_mono (hq : 0 < q) (h : q ≤ r) : unitExponent q ≤ unitExponent r :=
  unitExponent_le hq (le_unitExponent r) (h.trans_lt (lt_of_unitExponent (hq.le.trans h)))

theorem unitExponent_eq_of_mem (he : -1074 ≤ e) (hle : 2 ^ (e + 52) ≤ q) (hlt : q < 2 ^ (e + 53)) :
    unitExponent q = e := by
  have hpos : 0 < q := (two_zpow_pos _).trans_le hle
  refine le_antisymm (unitExponent_le hpos he hlt) ?_
  have := two_zpow_lt (hle.trans_lt (lt_of_unitExponent hpos.le))
  omega

@[simp] theorem nearest_zero : nearest 0 = 0 := by
  simpa [nearest] using toGrid_multiple (unitExponent 0) 0

theorem nearest_nonneg (h : 0 ≤ q) : 0 ≤ nearest q := by
  have hzero : toGrid (unitExponent q) 0 = 0 := by simpa using toGrid_multiple (unitExponent q) 0
  exact hzero ▸ toGrid_mono _ h

theorem nearest_le_two_zpow (h : 0 ≤ q) : nearest q ≤ 2 ^ (unitExponent q + 53) := by
  rw [← toGrid_two_zpow (e := unitExponent q) (f := unitExponent q + 53) (by omega)]
  exact toGrid_mono _ (lt_of_unitExponent h).le

theorem two_zpow_le_nearest (h : 0 < q) (he : unitExponent q ≠ -1074) :
    2 ^ (unitExponent q + 52) ≤ nearest q := by
  rw [← toGrid_two_zpow (e := unitExponent q) (f := unitExponent q + 52) (by omega)]
  exact toGrid_mono _ (two_zpow_le_of_unitExponent h he)

theorem nearest_mono (hq : 0 ≤ q) (h : q ≤ r) : nearest q ≤ nearest r := by
  obtain rfl | hpos := hq.eq_or_lt
  · rw [nearest_zero]
    exact nearest_nonneg h
  obtain heq | hlt := (unitExponent_mono hpos h).eq_or_lt
  · rw [nearest, nearest, heq]
    exact toGrid_mono _ h
  · -- a power of two lies between numbers with different units
    have hge := le_unitExponent q
    calc nearest q ≤ 2 ^ (unitExponent q + 53) := nearest_le_two_zpow hq
      _ ≤ 2 ^ (unitExponent r + 52) := two_zpow_le (by omega)
      _ ≤ nearest r := two_zpow_le_nearest (hpos.trans_le h) (by omega)

theorem nearest_two_zpow (he : -1074 ≤ e) : nearest (2 ^ e) = 2 ^ e := by
  have hlt : (2 : Rat) ^ e < 2 ^ (e + 53) := zpow_lt_zpow_right₀ (by norm_num) (by omega)
  exact toGrid_two_zpow (unitExponent_le (two_zpow_pos e) he hlt)

theorem nearest_natCast {n : Nat} (h : n < 2 ^ 53) : nearest n = n := by
  obtain rfl | hpos := n.eq_zero_or_pos
  · simp
  have hn : (0 : Rat) < n := by exact_mod_cast hpos
  have hlt : (n : Rat) < 2 ^ ((0 : Int) + 53) := by exact_mod_cast h
  have hgrid := toGrid_multiple_of_le (unitExponent_le hn (by decide) hlt) n
  simpa [nearest] using hgrid

/-- Rounding twice is rounding once. -/
theorem nearest_nearest (h : 0 ≤ q) : nearest (nearest q) = nearest q := by
  obtain hzero | hpos := (nearest_nonneg h).eq_or_lt
  · rw [← hzero, nearest_zero]
  obtain heq | hlt := (nearest_le_two_zpow h).eq_or_lt
  · have := le_unitExponent q
    rw [heq]
    exact nearest_two_zpow (by omega)
  · exact toGrid_multiple_of_le (unitExponent_le hpos (le_unitExponent q) hlt) _

/-- Up to a power of two, the error is half a unit of the numbers below it. -/
theorem abs_nearest_sub_le (h : 0 ≤ q) (he : -1074 ≤ e) (hle : q ≤ 2 ^ (e + 53)) :
    |nearest q - q| ≤ 2 ^ e / 2 := by
  have hhalf : (0 : Rat) ≤ 2 ^ e / 2 := by positivity
  obtain rfl | hlt := hle.eq_or_lt
  · rw [nearest_two_zpow (by omega), sub_self, abs_zero]
    exact hhalf
  obtain rfl | hpos := h.eq_or_lt
  · simpa using hhalf
  calc |nearest q - q| ≤ 2 ^ unitExponent q / 2 := abs_toGrid_sub_le _ q
    _ ≤ 2 ^ e / 2 := by
      have := two_zpow_le (unitExponent_le hpos he hlt)
      linarith

/-- Above the smallest grid, the error is a fixed share of the number. -/
theorem abs_nearest_sub_le_mul (h : q = 0 ∨ 2 ^ (-1022 : Int) ≤ q) :
    |nearest q - q| ≤ q * 2 ^ (-53 : Int) := by
  obtain rfl | h := h
  · simp
  have hpos : 0 < q := (two_zpow_pos _).trans_le h
  have hlow : 2 ^ (unitExponent q + 52) ≤ q := by
    by_cases he : unitExponent q = -1074
    · rw [he]
      exact h
    · exact two_zpow_le_of_unitExponent hpos he
  calc |nearest q - q| ≤ 2 ^ unitExponent q / 2 := abs_toGrid_sub_le _ q
    _ = 2 ^ (unitExponent q + 52) * 2 ^ (-53 : Int) := by
      rw [two_zpow_add]
      norm_num
      ring
    _ ≤ q * 2 ^ (-53 : Int) := mul_le_mul_of_nonneg_right hlow (two_zpow_pos _).le

/-- `q` came out of `r` by `k` roundings one on top of the other, each of which may err by a share of
`2 ^ (-53)`. -/
def Rounded (k : Nat) (q r : Rat) : Prop :=
  r * (1 - 2 ^ (-53 : Int)) ^ k ≤ q ∧ q ≤ r * (1 + 2 ^ (-53 : Int)) ^ k

/-- A representable number is a multiple of its unit. -/
theorem exists_multiple (hr : nearest r = r) : ∃ n : Int, r = n * 2 ^ unitExponent r := ⟨_, hr.symm⟩

/-- Where the unit is a whole number, so is any multiple of it. -/
theorem exists_natCast_eq {n : Int} (hpos : 0 ≤ (n : Rat) * 2 ^ e) (he : 0 ≤ e) :
    ∃ k : Nat, (n : Rat) * 2 ^ e = k := by
  have hn : 0 ≤ n := Int.cast_nonneg_iff.mp (nonneg_of_mul_nonneg_left hpos (two_zpow_pos e))
  obtain ⟨k, rfl⟩ := Int.eq_ofNat_of_zero_le he
  obtain ⟨m, rfl⟩ := Int.eq_ofNat_of_zero_le hn
  refine ⟨m * 2 ^ k, ?_⟩
  push_cast
  rw [zpow_natCast]

/-- From one multiple of the unit to a larger one it is a unit at least. -/
theorem multiple_add_unit_le {m n : Int} (h : (m : Rat) * 2 ^ e < n * 2 ^ e) :
    (m : Rat) * 2 ^ e + 2 ^ e ≤ n * 2 ^ e := by
  have hlt : m < n := Int.cast_lt.mp (lt_of_mul_lt_mul_right h (two_zpow_pos e).le)
  have hle : ((m + 1 : Int) : Rat) ≤ n := Int.cast_le.mpr hlt
  calc (m : Rat) * 2 ^ e + 2 ^ e = ((m + 1 : Int) : Rat) * 2 ^ e := by push_cast; ring
    _ ≤ n * 2 ^ e := mul_le_mul_of_nonneg_right hle (two_zpow_pos e).le

/-- Nearer than half a unit to a representable number there is no other one. -/
theorem nearest_eq_of_near (hr : nearest r = r) (he : unitExponent q = unitExponent r)
    (h : |q - r| < 2 ^ unitExponent r / 2) : nearest q = r := by
  have hpos := two_zpow_pos (unitExponent r)
  have hgrid : r = nearestEven (r / 2 ^ unitExponent r) * 2 ^ unitExponent r := hr.symm
  rw [nearest, he, toGrid]
  generalize nearestEven (r / 2 ^ unitExponent r) = n at hgrid
  generalize (2 : Rat) ^ unitExponent r = u at *
  have hn : |(n : Rat) - q / u| < 1 / 2 := by
    have hscale : (n : Rat) - q / u = -(q - r) / u := by
      rw [hgrid, neg_sub, sub_div, mul_div_cancel_right₀ _ hpos.ne']
    rw [hscale, abs_div, abs_neg, abs_of_pos hpos, div_lt_iff₀ hpos]
    linarith
  rw [nearestEven_eq_of_abs_lt hn, ← hgrid]

/-- A number that is not negative overflows or is the nearest representable one. -/
theorem round_of_nonneg (h : 0 ≤ q) :
    round q = if 2 ^ 1024 ≤ nearest q then positiveInfinity else finite (nearest q) := by
  have hneg : ¬ nearest q ≤ -(2 : Rat) ^ (1024 : Nat) := fun hle =>
    absurd (nearest_nonneg h) (not_le.mpr (hle.trans_lt (neg_lt_zero.mpr (by positivity))))
  rw [nearest] at hneg ⊢
  simp only [round, hneg, if_false]

theorem round_eq_finite (h : 0 ≤ q) {n : Nat} (hn : n < 1024) (hle : q ≤ 2 ^ n) :
    round q = finite (nearest q) := by
  have hlt : nearest q < 2 ^ 1024 :=
    calc nearest q ≤ nearest (2 ^ (n : Int)) := nearest_mono h (by simpa using hle)
      _ = 2 ^ (n : Int) := nearest_two_zpow (by omega)
      _ < 2 ^ 1024 := by
        rw [zpow_natCast]
        exact pow_lt_pow_right₀ (by norm_num) hn
  rw [round_of_nonneg h, if_neg (not_le.mpr hlt)]

end

namespace Rounded

variable {k : Nat} {q r q' r' c : Rat}

theorem refl (q : Rat) : Rounded 0 q q := by simp [Rounded]

theorem add (h : Rounded k q r) (h' : Rounded k q' r') : Rounded k (q + q') (r + r') := by
  constructor
  · rw [add_mul]
    exact add_le_add h.1 h'.1
  · rw [add_mul]
    exact add_le_add h.2 h'.2

theorem mul_right (h : Rounded k q r) (hc : 0 ≤ c) : Rounded k (q * c) (r * c) := by
  constructor
  · rw [mul_right_comm]
    exact mul_le_mul_of_nonneg_right h.1 hc
  · rw [mul_right_comm]
    exact mul_le_mul_of_nonneg_right h.2 hc

/-- One more rounding, of a number that is not too small for all 53 digits. -/
theorem nearest (h : Rounded k q r) (hq : q = 0 ∨ 2 ^ (-1022 : Int) ≤ q) :
    Rounded (k + 1) (nearest q) r := by
  obtain ⟨hlow, hhigh⟩ := abs_le.mp (abs_nearest_sub_le_mul hq)
  have hsmall : (0 : Rat) ≤ 1 - 2 ^ (-53 : Int) := by norm_num
  constructor
  · calc r * (1 - 2 ^ (-53 : Int)) ^ (k + 1)
        = r * (1 - 2 ^ (-53 : Int)) ^ k * (1 - 2 ^ (-53 : Int)) := by ring
      _ ≤ q * (1 - 2 ^ (-53 : Int)) := mul_le_mul_of_nonneg_right h.1 hsmall
      _ ≤ Binary64.nearest q := by linarith
  · calc Binary64.nearest q ≤ q * (1 + 2 ^ (-53 : Int)) := by linarith
      _ ≤ r * (1 + 2 ^ (-53 : Int)) ^ k * (1 + 2 ^ (-53 : Int)) :=
        mul_le_mul_of_nonneg_right h.2 (by positivity)
      _ = r * (1 + 2 ^ (-53 : Int)) ^ (k + 1) := by ring

/-- Three roundings err by less than a fourth would be allowed to. -/
theorem abs_sub_le (h : Rounded 3 q r) (hr : 0 ≤ r) : |q - r| ≤ r * 2 ^ (-51 : Int) := by
  have hlow : r * (1 - 2 ^ (-51 : Int)) ≤ q :=
    le_trans (mul_le_mul_of_nonneg_left (by norm_num) hr) h.1
  have hhigh : q ≤ r * (1 + 2 ^ (-51 : Int)) :=
    le_trans h.2 (mul_le_mul_of_nonneg_left (by norm_num) hr)
  rw [abs_le]
  constructor <;> linarith

end Rounded

end Binary64

end ResilientProxy
