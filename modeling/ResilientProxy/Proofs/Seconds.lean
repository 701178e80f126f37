import Mathlib.Tactic.NormNum
import ResilientProxy.Duration.Seconds
import ResilientProxy.Proofs.Rounding

/-!
# Lengths of time to seconds and back

A length of time that was read off a number of seconds reads back to the nanosecond. Below `2 ^ 23`
seconds the representable numbers lie closer together than nanoseconds do, so any length comes back.
Above, they lie further apart, and it is the number of seconds that comes back, and the length
with it.
-/

namespace ResilientProxy

open Binary64

/-- The whole number of nanoseconds nearest to `q` seconds. -/
def nearestNanos (q : Rat) : Nat := (nearestEven (q * (nanosPerSecond : Rat))).toNat

section

variable {q r : Rat} {n : Nat}

theorem nanosPerSecond_pos : (0 : Rat) < nanosPerSecond := by norm_num [nanosPerSecond]

theorem nearestNanos_mono (h : q ≤ r) : nearestNanos q ≤ nearestNanos r :=
  Int.toNat_le_toNat (nearestEven_mono (mul_le_mul_of_nonneg_right h nanosPerSecond_pos.le))

theorem nearestNanos_eq_of_abs_lt (h : |(n : Rat) - q * (nanosPerSecond : Rat)| < 1 / 2) :
    nearestNanos q = n := by
  rw [nearestNanos, nearestEven_eq_of_abs_lt (n := n) (by simpa using h), Int.toNat_natCast]

theorem nearestNanos_natCast (n : Nat) : nearestNanos n = n * nanosPerSecond :=
  nearestNanos_eq_of_abs_lt (by push_cast; norm_num)

@[simp] theorem nearestNanos_zero : nearestNanos 0 = 0 := by simpa using nearestNanos_natCast 0

theorem abs_nearestNanos_sub_le (h : 0 ≤ q) :
    |(nearestNanos q : Rat) - q * (nanosPerSecond : Rat)| ≤ 1 / 2 := by
  have hzero : 0 ≤ nearestEven (q * (nanosPerSecond : Rat)) := by
    simpa using nearestEven_mono (mul_nonneg h nanosPerSecond_pos.le)
  have hcast : (nearestNanos q : Rat) = nearestEven (q * (nanosPerSecond : Rat)) := by
    rw [nearestNanos, ← Int.cast_natCast, Int.toNat_of_nonneg hzero]
  rw [hcast]
  exact abs_nearestEven_sub_le _

end

namespace Duration

/-- The length in seconds, as a rational. -/
def exactSeconds (d : Duration) : Rat := (d.nanos : Rat) / (nanosPerSecond : Rat)

/-- The whole seconds and the rest of a second, each rounded. -/
def splitSeconds (d : Duration) : Rat :=
  nearest (d.seconds : Nat) + nearest ((d.subsecondNanos : Rat) / (nanosPerSecond : Rat))

/-- The number of seconds that arithmetic goes on with. -/
def roundedSeconds (d : Duration) : Rat := nearest d.splitSeconds

section

variable {d : Duration} {q r : Rat} {n : Nat}

theorem nanos_eq (d : Duration) : d.nanos = d.seconds * nanosPerSecond + d.subsecondNanos :=
  (Nat.div_add_mod' d.nanos nanosPerSecond).symm

theorem seconds_lt (d : Duration) : d.seconds < UInt64.size :=
  Nat.div_lt_of_lt_mul (Nat.mul_comm _ _ ▸ d.nanos_lt)

theorem subsecondNanos_lt (d : Duration) : d.subsecondNanos < nanosPerSecond :=
  Nat.mod_lt _ (by decide)

/-- What is left over is less than a second. -/
theorem rest_mem (d : Duration) :
    0 ≤ (d.subsecondNanos : Rat) / (nanosPerSecond : Rat) ∧
      (d.subsecondNanos : Rat) / (nanosPerSecond : Rat) ≤ 1 := by
  have hlt : (d.subsecondNanos : Rat) ≤ nanosPerSecond := by
    exact_mod_cast d.subsecondNanos_lt.le
  exact ⟨by positivity, (div_le_one nanosPerSecond_pos).mpr hlt⟩

theorem exactSeconds_eq (d : Duration) :
    d.exactSeconds = d.seconds + (d.subsecondNanos : Rat) / (nanosPerSecond : Rat) := by
  rw [exactSeconds, nanos_eq]
  push_cast
  rw [add_div, mul_div_cancel_right₀ _ nanosPerSecond_pos.ne']

theorem exactSeconds_mul (d : Duration) : d.exactSeconds * (nanosPerSecond : Rat) = d.nanos :=
  div_mul_cancel₀ _ nanosPerSecond_pos.ne'

theorem splitSeconds_nonneg (d : Duration) : 0 ≤ d.splitSeconds :=
  add_nonneg (nearest_nonneg (Nat.cast_nonneg _)) (nearest_nonneg d.rest_mem.1)

theorem roundedSeconds_nonneg (d : Duration) : 0 ≤ d.roundedSeconds :=
  nearest_nonneg d.splitSeconds_nonneg

theorem nearest_roundedSeconds (d : Duration) : nearest d.roundedSeconds = d.roundedSeconds :=
  nearest_nearest d.splitSeconds_nonneg

theorem nearest_one : nearest 1 = 1 := by simpa using nearest_natCast (n := 1) (by decide)

theorem splitSeconds_le (d : Duration) : d.splitSeconds ≤ 2 ^ 65 := by
  have hwhole : nearest (d.seconds : Nat) ≤ 2 ^ (64 : Int) := by
    rw [← nearest_two_zpow (e := 64) (by decide)]
    refine nearest_mono (Nat.cast_nonneg _) ?_
    exact_mod_cast d.seconds_lt.le
  have hrest := nearest_mono d.rest_mem.1 d.rest_mem.2
  rw [nearest_one] at hrest
  rw [splitSeconds]
  norm_num at hwhole ⊢
  linarith

theorem inSeconds_eq (d : Duration) : d.inSeconds = .finite d.roundedSeconds := by
  have hwhole : ((d.seconds : Nat) : Rat) ≤ 2 ^ 64 := by exact_mod_cast d.seconds_lt.le
  rw [inSeconds, ofNat, round_eq_finite (Nat.cast_nonneg _) (n := 64) (by decide) hwhole,
    round_eq_finite d.rest_mem.1 (n := 0) (by decide) (by simpa using d.rest_mem.2), add_finite]
  exact round_eq_finite d.splitSeconds_nonneg (n := 65) (by decide) d.splitSeconds_le

theorem longest_nanos : longest.nanos = UInt64.size * nanosPerSecond - 1 := rfl

theorem ofNanos?_getD (n : Nat) (d : Duration) :
    ((ofNanos? n).getD d).nanos = if n ≤ longest.nanos then n else d.nanos := by
  have hiff : n < UInt64.size * nanosPerSecond ↔ n ≤ longest.nanos := by
    rw [longest_nanos]
    exact (Nat.le_sub_one_iff_lt (by decide)).symm
  rw [ofNanos?]
  simp only [hiff]
  split <;> rfl

theorem ofInSeconds?_finite (h : 0 ≤ q) : ofInSeconds? (.finite q) = ofNanos? (nearestNanos q) := by
  simp only [ofInSeconds?, if_neg (not_lt.mpr h), nearestNanos]

/-- A number of seconds too large to be represented is too long for a length of time as well. -/
theorem ofInSeconds?_round (h : 0 ≤ q) :
    ofInSeconds? (round q) = ofNanos? (nearestNanos (nearest q)) := by
  rw [round_of_nonneg h]
  split
  · rename_i hle
    have hlong : ¬ nearestNanos (nearest q) < UInt64.size * nanosPerSecond := by
      have hsize : ((2 ^ 64 : Nat) : Rat) ≤ nearest q := by
        refine le_trans ?_ hle
        rw [Nat.cast_pow, Nat.cast_ofNat]
        exact pow_le_pow_right₀ (by norm_num) (by decide)
      have hmono := nearestNanos_mono hsize
      rw [nearestNanos_natCast] at hmono
      exact not_lt.mpr hmono
    rw [ofNanos?, dif_neg hlong]
    rfl
  · exact ofInSeconds?_finite (nearest_nonneg h)

/-- While whole seconds are representable, only the rest of a second is rounded. -/
theorem abs_splitSeconds_sub_le (h : d.seconds < 2 ^ 53) :
    |d.splitSeconds - d.exactSeconds| ≤ 2 ^ (-54 : Int) := by
  have hrest := abs_nearest_sub_le d.rest_mem.1 (e := -53) (by decide) (by simpa using d.rest_mem.2)
  have hscale : (2 : Rat) ^ (-53 : Int) / 2 = 2 ^ (-54 : Int) := by norm_num
  rw [splitSeconds, exactSeconds_eq, nearest_natCast h, add_sub_add_left_eq_sub]
  rwa [hscale] at hrest

theorem seconds_le_of_nanos_le (h : d.nanos ≤ n * nanosPerSecond) : d.seconds ≤ n :=
  Nat.div_le_of_le_mul (Nat.mul_comm _ _ ▸ h)

/-- Below `2 ^ 23` seconds every length comes back. -/
theorem nearestNanos_roundedSeconds_of_le (h : d.nanos ≤ 2 ^ 23 * nanosPerSecond) :
    nearestNanos d.roundedSeconds = d.nanos := by
  have hseconds := seconds_le_of_nanos_le h
  have hsplit : d.splitSeconds ≤ 2 ^ ((-30 : Int) + 53) := by
    rw [splitSeconds, nearest_natCast (by omega)]
    obtain hlt | heq := Nat.lt_or_eq_of_le hseconds
    · have hrest := nearest_mono d.rest_mem.1 d.rest_mem.2
      have hwhole : (d.seconds : Rat) + 1 ≤ 2 ^ 23 := by exact_mod_cast hlt
      rw [nearest_one] at hrest
      norm_num at hwhole ⊢
      linarith
    · have hrest : d.subsecondNanos = 0 := by
        have := d.nanos_eq
        rw [heq] at this
        omega
      rw [heq, hrest]
      norm_num
  have hround := abs_le.mp (abs_nearest_sub_le d.splitSeconds_nonneg (by decide) hsplit)
  have herror := abs_le.mp (abs_splitSeconds_sub_le (d := d) (by omega))
  have hexact := d.exactSeconds_mul
  apply nearestNanos_eq_of_abs_lt
  rw [← hexact, roundedSeconds, abs_lt]
  norm_num [nanosPerSecond] at hround herror ⊢
  constructor <;> linarith

theorem roundedSeconds_of_natCast (h : d.nanos = n * nanosPerSecond) :
    d.roundedSeconds = nearest n := by
  have hseconds : d.seconds = n := by
    rw [seconds, h]
    exact Nat.mul_div_cancel _ (by decide)
  have hrest : d.subsecondNanos = 0 := by
    rw [subsecondNanos, h]
    exact Nat.mul_mod_left _ _
  rw [roundedSeconds, splitSeconds, hseconds, hrest, Nat.cast_zero, zero_div, nearest_zero, add_zero]
  exact nearest_nearest (Nat.cast_nonneg n)

@[simp] theorem roundedSeconds_zero : zero.roundedSeconds = 0 := by
  simpa using roundedSeconds_of_natCast (d := .zero) (n := 0) rfl

theorem eq_zero_of_isZero (h : d.isZero = true) : d = .zero := by
  ext
  simpa [isZero] using h

/-- A nanosecond is far above the smallest representable numbers. -/
theorem rest_eq_zero_or (d : Duration) :
    (d.subsecondNanos : Rat) / (nanosPerSecond : Rat) = 0 ∨
      2 ^ (-30 : Int) ≤ (d.subsecondNanos : Rat) / (nanosPerSecond : Rat) := by
  obtain hzero | hpos := d.subsecondNanos.eq_zero_or_pos
  · exact .inl (by rw [hzero, Nat.cast_zero, zero_div])
  · have hone : (1 : Rat) ≤ d.subsecondNanos := by exact_mod_cast hpos
    refine .inr ((le_div_iff₀ nanosPerSecond_pos).mpr (le_trans ?_ hone))
    norm_num [nanosPerSecond]

theorem seconds_eq_zero_or (d : Duration) : (d.seconds : Rat) = 0 ∨ 1 ≤ (d.seconds : Rat) := by
  obtain hzero | hpos := d.seconds.eq_zero_or_pos
  · exact .inl (by rw [hzero, Nat.cast_zero])
  · exact .inr (by exact_mod_cast hpos)

theorem splitSeconds_eq_zero_or (d : Duration) :
    d.splitSeconds = 0 ∨ 2 ^ (-30 : Int) ≤ d.splitSeconds := by
  have hwhole := nearest_nonneg (q := (d.seconds : Nat)) (Nat.cast_nonneg _)
  have hrest := nearest_nonneg d.rest_mem.1
  have hleast : nearest (2 ^ (-30 : Int)) = 2 ^ (-30 : Int) := nearest_two_zpow (by decide)
  obtain hseconds | hseconds := d.seconds_eq_zero_or
  · obtain hnanos | hnanos := d.rest_eq_zero_or
    · exact .inl (by rw [splitSeconds, hseconds, hnanos, nearest_zero, add_zero])
    · refine .inr ?_
      rw [← hleast, splitSeconds]
      exact (nearest_mono (two_zpow_pos _).le hnanos).trans (le_add_of_nonneg_left hwhole)
  · have hle : (2 : Rat) ^ (-30 : Int) ≤ d.seconds := le_trans (by norm_num) hseconds
    refine .inr ?_
    rw [← hleast, splitSeconds]
    exact (nearest_mono (two_zpow_pos _).le hle).trans (le_add_of_nonneg_right hrest)

theorem roundedSeconds_eq_zero_or (d : Duration) :
    d.roundedSeconds = 0 ∨ 2 ^ (-30 : Int) ≤ d.roundedSeconds := by
  obtain h | h := d.splitSeconds_eq_zero_or
  · exact .inl (by rw [roundedSeconds, h, nearest_zero])
  · refine .inr ?_
    rw [← nearest_two_zpow (e := -30) (by decide)]
    exact nearest_mono (two_zpow_pos _).le h

/-- The seconds of a length come from rounding twice. -/
theorem rounded_roundedSeconds (d : Duration) : Rounded 2 d.roundedSeconds d.exactSeconds := by
  have hsmall : (2 : Rat) ^ (-1022 : Int) ≤ 2 ^ (-30 : Int) := two_zpow_le (by decide)
  have hone : (2 : Rat) ^ (-1022 : Int) ≤ 1 := zpow_le_one_of_nonpos₀ (by norm_num) (by decide)
  have hwhole := (Rounded.refl (d.seconds : Nat)).nearest (d.seconds_eq_zero_or.imp_right hone.trans)
  have hrest := (Rounded.refl _).nearest (d.rest_eq_zero_or.imp_right hsmall.trans)
  rw [exactSeconds_eq]
  exact (hwhole.add hrest).nearest (d.splitSeconds_eq_zero_or.imp_right hsmall.trans)

/-- What is not zero is not rounded to zero. -/
theorem roundedSeconds_pos (h : d.isZero = false) : 0 < d.roundedSeconds := by
  have hne : d.nanos ≠ 0 := by simpa [isZero] using h
  have hexact : 0 < d.exactSeconds :=
    div_pos (by exact_mod_cast Nat.pos_of_ne_zero hne) nanosPerSecond_pos
  exact lt_of_lt_of_le (mul_pos hexact (by norm_num)) d.rounded_roundedSeconds.1

/-- Above `2 ^ 23` seconds, a number of seconds with a fraction comes back from its length. -/
theorem roundedSeconds_of_fraction (hr : nearest r = r) (hlarge : 2 ^ 23 < r)
    (hfraction : ∀ n : Nat, r ≠ n) (hd : d.nanos = nearestNanos r) : d.roundedSeconds = r := by
  have hpos : 0 < r := lt_trans (by norm_num) hlarge
  obtain ⟨n, hn⟩ := exists_multiple hr
  have hlow := two_zpow_le_of_unitExponent hpos
  have hhigh := lt_of_unitExponent hpos.le
  have hnear := nearest_eq_of_near (q := d.splitSeconds) hr
  generalize unitExponent r = e at *
  have hneg : e < 0 := by
    by_contra hge
    obtain ⟨k, hk⟩ := exists_natCast_eq (hn ▸ hpos.le) (not_lt.mp hge)
    exact hfraction k (hn.trans hk)
  have hexponent : -30 < e := by
    have := two_zpow_lt (e := 23) (hlarge.trans hhigh)
    omega
  -- the number lies off the powers of two, which are whole at this size
  have hpower : ∀ k : Nat, (2 : Rat) ^ (e + k) = ((2 ^ k : Int) : Rat) * 2 ^ e := fun k => by
    rw [two_zpow_add, mul_comm, zpow_natCast]
    push_cast
    rfl
  have hoff : (2 : Rat) ^ (e + 52) ≠ r := fun heq => by
    obtain ⟨k, hk⟩ := exists_natCast_eq (n := 1) (e := e + 52)
      (by simpa using (two_zpow_pos _).le) (by omega)
    exact hfraction k (by rw [← heq, ← hk, Int.cast_one, one_mul])
  have hlowFar : (2 : Rat) ^ (e + 52) + 2 ^ e ≤ r := by
    have hlt := (hlow (by omega)).lt_of_ne hoff
    rw [hn, show (52 : Int) = (52 : Nat) from rfl, hpower] at hlt ⊢
    exact multiple_add_unit_le hlt
  have hhighFar : r + 2 ^ e ≤ 2 ^ (e + 53) := by
    rw [hn, show (53 : Int) = (53 : Nat) from rfl, hpower] at hhigh ⊢
    exact multiple_add_unit_le hhigh
  have herror : |d.splitSeconds - r| < 2 ^ e / 2 := by
    have hseconds : d.seconds ≤ 2 ^ 52 := by
      refine seconds_le_of_nanos_le ?_
      rw [hd, ← nearestNanos_natCast]
      refine nearestNanos_mono (hhigh.le.trans ?_)
      exact_mod_cast two_zpow_le (e := e + 53) (f := 52) (by omega)
    have hsplit := abs_le.mp (abs_splitSeconds_sub_le (d := d) (by omega))
    have hnanos := abs_le.mp (abs_nearestNanos_sub_le hpos.le)
    have hunit := two_zpow_le (e := -29) (f := e) (by omega)
    rw [← hd, ← d.exactSeconds_mul] at hnanos
    rw [abs_lt]
    norm_num [nanosPerSecond] at hsplit hnanos hunit ⊢
    constructor <;> linarith
  obtain ⟨hge, hle⟩ := abs_lt.mp herror
  have hunit := two_zpow_pos e
  exact hnear (unitExponent_eq_of_mem (by omega) (by linarith) (by linarith)) herror

/-- A length that was read off a representable number of seconds comes back. -/
theorem nearestNanos_roundedSeconds (hr : nearest r = r) (hpos : 0 ≤ r)
    (hd : d.nanos = nearestNanos r) : nearestNanos d.roundedSeconds = d.nanos := by
  by_cases hwhole : ∃ n : Nat, r = n
  · obtain ⟨n, rfl⟩ := hwhole
    rw [nearestNanos_natCast] at hd
    rw [roundedSeconds_of_natCast hd, hr, nearestNanos_natCast, hd]
  rw [not_exists] at hwhole
  by_cases hlarge : 2 ^ 23 < r
  · rw [roundedSeconds_of_fraction hr hlarge hwhole hd, hd]
  · refine nearestNanos_roundedSeconds_of_le ?_
    have hmono := nearestNanos_mono (q := r) (r := ((2 ^ 23 : Nat) : Rat)) (by
      push_cast
      exact not_lt.mp hlarge)
    rw [nearestNanos_natCast] at hmono
    exact hd ▸ hmono

/-- The longest length is rounded up, past all lengths. -/
theorem longest_lt : longest.nanos < nearestNanos longest.roundedSeconds := by
  have hwhole : nearest (longest.seconds : Nat) = 2 ^ 64 := by
    have hunit : unitExponent (longest.seconds : Nat) = 11 := by
      apply unitExponent_eq_of_mem
      all_goals norm_num [longest, seconds, nanosPerSecond, UInt64.size]
    rw [nearest, hunit, toGrid, nearestEven_eq_of_abs_lt (n := 2 ^ 53)]
    · norm_num
    · rw [abs_lt]
      norm_num [longest, seconds, nanosPerSecond, UInt64.size]
  have hsplit : (2 : Rat) ^ 64 ≤ longest.splitSeconds := by
    rw [splitSeconds, hwhole]
    exact le_add_of_nonneg_right (nearest_nonneg longest.rest_mem.1)
  have hrounded : ((2 ^ 64 : Nat) : Rat) ≤ longest.roundedSeconds := by
    have hmono := nearest_mono (by norm_num) hsplit
    rw [← zpow_ofNat, nearest_two_zpow (by decide), zpow_ofNat] at hmono
    rw [Nat.cast_pow, Nat.cast_ofNat]
    exact hmono
  have hnanos := nearestNanos_mono hrounded
  rw [nearestNanos_natCast] at hnanos
  exact lt_of_lt_of_le (by decide) hnanos

end

end Duration

end ResilientProxy
