import ResilientProxy.Proofs.Budget
import ResilientProxy.Proofs.Jitter

/-!
# The documented ceiling of a wait

The ceiling of a wait is `2 ^ n - 1` time slots up to three roundings of the seconds and one of the
nanoseconds, or the longest length there is. At every attempt at which a retry loop of a checked
configuration can wait, the number of slots is exact, so the roundings are all that is lost, and a
short ceiling loses nothing.
-/

namespace ResilientProxy.Backoff

open Binary64 Duration

variable {b : Backoff} {n : Nat}

/-- The nanoseconds of `2 ^ n - 1` time slots. -/
def slotNanos (b : Backoff) (n : Nat) : Nat := (2 ^ n - 1) * b.timeSlot.nanos

/-- The ceiling as documented, before any rounding. -/
def exactCeiling (b : Backoff) (n : Nat) : Nat := min (b.slotNanos n) longest.nanos

theorem roundedSlots_eq (h : n ≤ 53) : roundedSlots n = ((2 ^ n - 1 : Nat) : Rat) := by
  have hpow : 2 ^ n ≤ 2 ^ 53 := Nat.pow_le_pow_right (by decide) h
  have hpos : 1 ≤ 2 ^ n := Nat.one_le_two_pow
  have hcast : (2 : Rat) ^ n - 1 = ((2 ^ n - 1 : Nat) : Rat) := by
    rw [Nat.cast_sub hpos]
    norm_num
  rw [roundedSlots, hcast, nearest_natCast (by omega)]

theorem exactSeconds_mul_slots (b : Backoff) (n : Nat) :
    b.timeSlot.exactSeconds * ((2 ^ n - 1 : Nat) : Rat) * (nanosPerSecond : Rat) = b.slotNanos n := by
  rw [mul_right_comm, exactSeconds_mul, slotNanos, Nat.cast_mul, mul_comm]

theorem rounded_ceilingSeconds (b : Backoff) (h : n ≤ 53) :
    Rounded 3 (b.ceilingSeconds n) (b.timeSlot.exactSeconds * ((2 ^ n - 1 : Nat) : Rat)) := by
  rw [ceilingSeconds, roundedSlots_eq h]
  refine (b.timeSlot.rounded_roundedSeconds.mul_right (Nat.cast_nonneg _)).nearest ?_
  obtain hslots | hslots := (2 ^ n - 1).eq_zero_or_pos
  · exact .inl (by rw [hslots, Nat.cast_zero, mul_zero])
  obtain hslot | hslot := b.timeSlot.roundedSeconds_eq_zero_or
  · exact .inl (by rw [hslot, zero_mul])
  · have hone : (1 : Rat) ≤ ((2 ^ n - 1 : Nat) : Rat) := by exact_mod_cast hslots
    have hsmall : (2 : Rat) ^ (-1022 : Int) ≤ 2 ^ (-30 : Int) := two_zpow_le (by decide)
    exact .inr (hsmall.trans (hslot.trans (le_mul_of_one_le_right b.timeSlot.roundedSeconds_nonneg hone)))

/-- Before it is cut to a length of time, the ceiling is off by half a nanosecond and what three
roundings of the seconds come to. -/
theorem abs_nearestNanos_ceilingSeconds_sub_le (b : Backoff) (h : n ≤ 53) :
    |(nearestNanos (b.ceilingSeconds n) : Rat) - b.slotNanos n| ≤
      1 / 2 + b.slotNanos n * 2 ^ (-51 : Int) := by
  have hexact : 0 ≤ b.timeSlot.exactSeconds * ((2 ^ n - 1 : Nat) : Rat) :=
    mul_nonneg (div_nonneg (Nat.cast_nonneg _) nanosPerSecond_pos.le) (Nat.cast_nonneg _)
  have hseconds := (b.rounded_ceilingSeconds h).abs_sub_le hexact
  have hscaled := mul_le_mul_of_nonneg_right hseconds nanosPerSecond_pos.le
  rw [← abs_of_pos nanosPerSecond_pos, ← abs_mul, abs_of_pos nanosPerSecond_pos, sub_mul,
    mul_right_comm _ ((2 : Rat) ^ (-51 : Int)), exactSeconds_mul_slots] at hscaled
  have hnanos := abs_nearestNanos_sub_le (b.ceilingSeconds_nonneg n)
  exact (abs_sub_le _ _ _).trans (add_le_add hnanos hscaled)

/-- Two numbers that are close stay so when both are cut at the same place. -/
theorem abs_min_sub_min_le {q r c share : Rat} (hc : 0 ≤ c) (hshare : 0 ≤ share) (hone : share ≤ 1)
    (h : |q - r| ≤ 1 / 2 + r * share) : |min q c - min r c| ≤ 1 / 2 + min r c * share := by
  obtain ⟨hlow, hhigh⟩ := abs_le.mp h
  have hcut : 0 ≤ c * share := mul_nonneg hc hshare
  obtain hr | hr := le_total r c
  · rw [min_eq_left hr]
    obtain hq | hq := le_total q c
    · rwa [min_eq_left hq]
    · rw [min_eq_right hq, abs_le]
      constructor <;> linarith
  · rw [min_eq_right hr]
    obtain hq | hq := le_total q c
    · -- what the cut takes off `r` it takes off the allowed error at most
      have hcutoff : (r - c) * share ≤ r - c := mul_le_of_le_one_right (sub_nonneg.mpr hr) hone
      rw [min_eq_left hq, abs_le]
      constructor <;> linarith
    · rw [min_eq_right hq, sub_self, abs_zero]
      linarith

theorem abs_ceiling_sub_le (b : Backoff) {n : UInt32} (h : n.toNat ≤ 53) :
    |((b.ceiling n).nanos : Rat) - b.exactCeiling n.toNat| ≤
      1 / 2 + b.exactCeiling n.toNat * 2 ^ (-51 : Int) := by
  have hnear := b.abs_nearestNanos_ceilingSeconds_sub_le h
  rw [b.nanos_ceiling (by omega), exactCeiling, Nat.cast_min, Nat.cast_min]
  exact abs_min_sub_min_le (Nat.cast_nonneg _) (two_zpow_pos _).le
    (zpow_le_one_of_nonpos₀ (by norm_num) (by decide)) hnear

/-- A short ceiling is exact. -/
theorem ceiling_eq_slotNanos (b : Backoff) {n : UInt32} (h : n.toNat ≤ 53)
    (hshort : b.slotNanos n.toNat < 2 ^ 50) : (b.ceiling n).nanos = b.slotNanos n.toNat := by
  have hcut : b.exactCeiling n.toNat = b.slotNanos n.toNat := by
    rw [exactCeiling, longest_nanos]
    exact min_eq_left (hshort.le.trans (by decide))
  have herror : (b.slotNanos n.toNat : Rat) * 2 ^ (-51 : Int) < 1 / 2 :=
    calc (b.slotNanos n.toNat : Rat) * 2 ^ (-51 : Int) < 2 ^ 50 * 2 ^ (-51 : Int) :=
          mul_lt_mul_of_pos_right (by exact_mod_cast hshort) (two_zpow_pos _)
      _ = 1 / 2 := by norm_num
  have hnear := b.abs_ceiling_sub_le h
  rw [hcut] at hnear
  obtain ⟨hlow, hhigh⟩ := abs_lt.mp (lt_of_le_of_lt hnear (by linarith : _ < (1 : Rat)))
  have hlt : ((b.ceiling n).nanos : Rat) < (b.slotNanos n.toNat + 1 : Nat) := by
    push_cast
    linarith
  have hgt : (b.slotNanos n.toNat : Rat) < ((b.ceiling n).nanos + 1 : Nat) := by
    push_cast
    linarith
  have := Nat.cast_lt.mp hlt
  have := Nat.cast_lt.mp hgt
  omega

/-- A loop that may go on after an attempt has had one attempt less than it may retry. -/
theorem attempt_le_of_not_exhausted {r : RetryLoop} (hmax : r.maxRetries ≤ maxRetriesLimit)
    (h : r.exhausted = false) : r.attempt.toNat ≤ 31 := by
  have hlt : r.attempt < r.maxRetries := by simpa [RetryLoop.exhausted] using h
  have hlimit := UInt32.lt_iff_toNat_lt.mp (UInt32.lt_of_lt_of_le hlt hmax)
  have : maxRetriesLimit.toNat = 32 := rfl
  omega

/-- The retry loops of a checked configuration wait after the attempts with index 31 and below,
where the ceiling is as documented up to half a nanosecond and a share of `2 ^ (-51)`, and exactly
as documented below `2 ^ 50` nanoseconds. -/
theorem ceiling_as_documented (c : Config) (hc : c.check = .ok ()) :
    let b : Backoff := ⟨c.retryTimeSlot⟩
    (∀ r : RetryLoop, r.maxRetries = c.maxOpenRetries ∨ r.maxRetries = c.maxCallRetries →
      r.exhausted = false → r.attempt.toNat ≤ 31) ∧
    (∀ n : UInt32, n.toNat ≤ 31 →
      |((b.ceiling n).nanos : Rat) - b.exactCeiling n.toNat| ≤
        1 / 2 + b.exactCeiling n.toNat * 2 ^ (-51 : Int)) ∧
    (∀ n : UInt32, n.toNat ≤ 31 → b.slotNanos n.toNat < 2 ^ 50 →
      (b.ceiling n).nanos = b.slotNanos n.toNat) := by
  intro b
  obtain ⟨hopen, hcall⟩ := Config.retries_le_of_check hc
  refine ⟨fun r hr => ?_, fun n hn => b.abs_ceiling_sub_le (by omega),
    fun n hn => b.ceiling_eq_slotNanos (by omega)⟩
  obtain hr | hr := hr
  · exact attempt_le_of_not_exhausted (hr ▸ hopen)
  · exact attempt_le_of_not_exhausted (hr ▸ hcall)

/-- The longest time slot that can be configured, at the last attempt with a wait: the ceiling is
cut. With the default slot it is exact. -/
theorem ceiling_as_documented_at_last_wait :
    let c : Config :=
      { Config.default with maxOpenRetries := 32, retryTimeSlotMs := 18446744073709551615 }
    let b : Backoff := ⟨c.retryTimeSlot⟩
    c.check = .ok () ∧ (RetryLoop.mk 31 c.maxOpenRetries 0).exhausted = false ∧
    b.exactCeiling 31 = longest.nanos ∧
    |((b.ceiling 31).nanos : Rat) - longest.nanos| ≤ 1 / 2 + longest.nanos * 2 ^ (-51 : Int) ∧
    slotNanos ⟨Config.default.retryTimeSlot⟩ 20 < 2 ^ 50 ∧
    (ceiling ⟨Config.default.retryTimeSlot⟩ 20).nanos =
      slotNanos ⟨Config.default.retryTimeSlot⟩ 20 := by
  intro c b
  have hcheck : c.check = .ok () := by decide
  obtain ⟨-, hnear, -⟩ := ceiling_as_documented c hcheck
  obtain ⟨-, -, hexact⟩ := ceiling_as_documented Config.default (by decide)
  have hcut : b.exactCeiling 31 = longest.nanos := by decide
  exact ⟨hcheck, by decide, hcut, hcut ▸ hnear 31 (by decide), by decide,
    hexact 20 (by decide) (by decide)⟩

end ResilientProxy.Backoff
