import ResilientProxy.Backoff
import ResilientProxy.Proofs.Seconds

/-!
# Jitter stays in its envelope

A wait is a share of its ceiling that was rounded twice on the way. That it never exceeds the
ceiling, and that the whole share is the ceiling to the nanosecond, comes from one fact: a ceiling
was read off a number of seconds, so it comes back from its own number of seconds, or it is the
longest length there is, which comes back as too long.
-/

namespace ResilientProxy

namespace Binary64

variable {u v : Binary64}

theorem share_finite (q : Rat) : (Binary64.finite q).share = max 0 (min 1 q) := by
  rw [share]
  split
  · rw [max_eq_left (min_le_of_right_le ‹_›)]
  split
  · rw [min_eq_left ‹_›, max_eq_right (by norm_num)]
  · rw [min_eq_right (le_of_not_ge ‹_›), max_eq_right (le_of_not_ge ‹_›)]

theorem share_of_one_le (h : .finite 1 ≤ u) : u.share = 1 := by
  cases u with
  | notANumber => exact nomatch h
  | negativeInfinity => exact nomatch h
  | positiveInfinity => rfl
  | finite q =>
    have hq : 1 ≤ q := of_decide_eq_true h
    rw [share_finite, min_eq_left hq, max_eq_right (by norm_num)]

theorem share_of_le_zero (h : u ≤ .finite 0) : u.share = 0 := by
  cases u with
  | notANumber => rfl
  | negativeInfinity => rfl
  | positiveInfinity => exact nomatch h
  | finite q =>
    have hq : q ≤ 0 := of_decide_eq_true h
    rw [share_finite, max_eq_left (min_le_of_right_le hq)]

theorem share_mono (h : u ≤ v) : u.share ≤ v.share := by
  cases u with
  | notANumber => exact nomatch h
  | negativeInfinity => exact v.share_nonneg
  | positiveInfinity =>
    cases v with
    | positiveInfinity => exact le_rfl
    | notANumber => exact nomatch h
    | negativeInfinity => exact nomatch h
    | finite q => exact nomatch h
  | finite q =>
    cases v with
    | notANumber => exact nomatch h
    | negativeInfinity => exact nomatch h
    | positiveInfinity => exact share_le_one _
    | finite r =>
      have hqr : q ≤ r := of_decide_eq_true h
      rw [share_finite, share_finite]
      exact max_le_max_left 0 (min_le_min_left 1 hqr)

end Binary64

namespace Backoff

open Binary64 Duration

variable {b : Backoff} {m n : UInt32} {u v : Binary64}

/-- How many time slots the wait after the attempt with index `n` may last, rounded. -/
def roundedSlots (n : Nat) : Rat := nearest (2 ^ n - 1)

theorem two_pow_sub_one_nonneg (n : Nat) : (0 : Rat) ≤ 2 ^ n - 1 :=
  sub_nonneg.mpr (one_le_pow₀ (by norm_num))

theorem roundedSlots_nonneg (n : Nat) : 0 ≤ roundedSlots n :=
  nearest_nonneg (two_pow_sub_one_nonneg n)

theorem roundedSlots_mono {k n : Nat} (h : k ≤ n) : roundedSlots k ≤ roundedSlots n :=
  nearest_mono (two_pow_sub_one_nonneg k)
    (sub_le_sub_right (pow_le_pow_right₀ (by norm_num) h) 1)

/-- The seconds of a ceiling before they are cut to a length of time. -/
def ceilingSeconds (b : Backoff) (n : Nat) : Rat :=
  nearest (b.timeSlot.roundedSeconds * roundedSlots n)

theorem slots_eq {k : Nat} (h : k < 1024) :
    twoToThe k - .finite 1 = .finite (roundedSlots k) := by
  have hsub : (Binary64.finite (2 ^ k) - .finite 1 : Binary64) = Binary64.round (2 ^ k + -1) := rfl
  have hle : (2 : Rat) ^ k - 1 ≤ 2 ^ k := by linarith
  rw [twoToThe, if_pos h, hsub, ← sub_eq_add_neg, roundedSlots]
  exact round_eq_finite (two_pow_sub_one_nonneg k) h hle

theorem product_nonneg (b : Backoff) (n : Nat) :
    0 ≤ b.timeSlot.roundedSeconds * roundedSlots n :=
  mul_nonneg b.timeSlot.roundedSeconds_nonneg (roundedSlots_nonneg n)

theorem ceilingSeconds_nonneg (b : Backoff) (n : Nat) : 0 ≤ b.ceilingSeconds n :=
  nearest_nonneg (b.product_nonneg n)

theorem ceilingSeconds_mono {k n : Nat} (h : k ≤ n) : b.ceilingSeconds k ≤ b.ceilingSeconds n :=
  nearest_mono (b.product_nonneg k)
    (mul_le_mul_of_nonneg_left (roundedSlots_mono h) b.timeSlot.roundedSeconds_nonneg)

/-- Without a time slot there is no wait. -/
theorem ceilingSeconds_of_isZero (h : b.timeSlot.isZero = true) (n : Nat) :
    b.ceilingSeconds n = 0 := by
  rw [ceilingSeconds, eq_zero_of_isZero h, roundedSeconds_zero, zero_mul, nearest_zero]

/-- A ceiling is the length nearest to its seconds, cut to the longest there is. -/
theorem nanos_ceiling (b : Backoff) (h : n.toNat < 1024) :
    (b.ceiling n).nanos = min (nearestNanos (b.ceilingSeconds n.toNat)) longest.nanos := by
  rw [ceiling]
  split
  · rename_i hzero
    rw [ceilingSeconds_of_isZero hzero, nearestNanos_zero, Nat.zero_min]
    rfl
  · dsimp only
    rw [slots_eq h, inSeconds_eq, mul_finite, ofInSeconds?_round (b.product_nonneg _),
      ofNanos?_getD, Nat.min_def]
    rfl

/-- From the attempt with index 1024 on the power of two is infinite. -/
theorem ceiling_eq_longest (hslot : b.timeSlot.isZero = false) (h : 1024 ≤ n.toNat) :
    b.ceiling n = .longest := by
  have hpos : 0 < b.timeSlot.roundedSeconds := roundedSeconds_pos hslot
  have hslots : twoToThe n.toNat - .finite 1 = .positiveInfinity := by
    rw [twoToThe, if_neg (not_lt.mpr h)]
    rfl
  rw [ceiling, hslot, hslots, inSeconds_eq]
  have hmul : (Binary64.finite b.timeSlot.roundedSeconds * .positiveInfinity : Binary64) =
      scaleInfinity true b.timeSlot.roundedSeconds := rfl
  simp only [hmul]
  simp [scaleInfinity, hpos.ne', hpos, infinityLike, ofInSeconds?]

theorem ceiling_mono (h : m ≤ n) : b.ceiling m ≤ b.ceiling n := by
  have hnat : m.toNat ≤ n.toNat := UInt32.le_iff_toNat_le.mp h
  by_cases hn : n.toNat < 1024
  · rw [le_def, nanos_ceiling b hn, nanos_ceiling b (hnat.trans_lt hn)]
    exact min_le_min_right _ (nearestNanos_mono (ceilingSeconds_mono hnat))
  cases hslot : b.timeSlot.isZero with
  | true => simp [ceiling, hslot, le_def]
  | false =>
    rw [ceiling_eq_longest hslot (not_lt.mp hn)]
    exact le_longest _

/-- A ceiling comes back from its own seconds, unless it is the longest length. -/
theorem ceiling_comes_back (b : Backoff) (n : UInt32) :
    nearestNanos (b.ceiling n).roundedSeconds = (b.ceiling n).nanos ∨ b.ceiling n = .longest := by
  by_cases hn : n.toNat < 1024
  · have hnanos := b.nanos_ceiling hn
    by_cases hlong : nearestNanos (b.ceilingSeconds n.toNat) ≤ longest.nanos
    · rw [min_eq_left hlong] at hnanos
      exact .inl (nearestNanos_roundedSeconds (nearest_nearest (b.product_nonneg _))
        (b.ceilingSeconds_nonneg _) hnanos)
    · rw [min_eq_right (le_of_not_ge hlong)] at hnanos
      exact .inr (Duration.ext hnanos)
  cases hslot : b.timeSlot.isZero with
  | true =>
    have hzero : b.ceiling n = .zero := by rw [ceiling, if_pos hslot]
    rw [hzero, roundedSeconds_zero, nearestNanos_zero]
    exact .inl rfl
  | false => exact .inr (ceiling_eq_longest hslot (not_lt.mp hn))

/-- The nanoseconds that a share of a ceiling rounds to, before they are cut to the ceiling. -/
def shareNanos (b : Backoff) (n : UInt32) (q : Rat) : Nat :=
  nearestNanos (nearest ((b.ceiling n).roundedSeconds * q))

theorem shareNanos_mono {q r : Rat} (hq : 0 ≤ q) (h : q ≤ r) :
    b.shareNanos n q ≤ b.shareNanos n r := by
  have hpos := (b.ceiling n).roundedSeconds_nonneg
  exact nearestNanos_mono (nearest_mono (mul_nonneg hpos hq) (mul_le_mul_of_nonneg_left h hpos))

theorem shareNanos_one (b : Backoff) (n : UInt32) :
    b.shareNanos n 1 = nearestNanos (b.ceiling n).roundedSeconds := by
  rw [shareNanos, mul_one, nearest_roundedSeconds]

theorem nanos_ceiling_le (b : Backoff) (n : UInt32) : (b.ceiling n).nanos ≤ b.shareNanos n 1 := by
  rw [shareNanos_one]
  obtain h | h := b.ceiling_comes_back n
  · exact h.ge
  · rw [h]
    exact longest_lt.le

/-- A wait is the share that it stands for, cut to the ceiling. -/
theorem nanos_delay (b : Backoff) (n : UInt32) (u : Binary64) :
    (b.delay n u).nanos = min (b.shareNanos n u.share) (b.ceiling n).nanos := by
  have hproduct := mul_nonneg (b.ceiling n).roundedSeconds_nonneg u.share_nonneg
  have hle := shareNanos_mono (b := b) (n := n) u.share_nonneg u.share_le_one
  rw [delay, inSeconds_eq, mul_finite, ofInSeconds?_round hproduct, ofNanos?_getD]
  change (if b.shareNanos n u.share ≤ _ then b.shareNanos n u.share else _) = _
  split
  · -- what is no length at all exceeds every ceiling, and no share exceeds the whole
    rename_i hlong
    symm
    apply min_eq_left
    obtain h | h := b.ceiling_comes_back n
    · rw [← h, ← shareNanos_one]
      exact hle
    · rw [h]
      exact hlong
  · rename_i hlong
    exact (min_eq_right ((le_longest _).trans (le_of_not_ge hlong))).symm

theorem delay_le_ceiling (b : Backoff) (n : UInt32) (u : Binary64) : b.delay n u ≤ b.ceiling n := by
  rw [le_def, nanos_delay]
  exact min_le_right _ _

theorem delay_of_share_one (h : u.share = 1) : b.delay n u = b.ceiling n := by
  ext
  rw [nanos_delay, h, min_eq_right (b.nanos_ceiling_le n)]

theorem delay_of_share_zero (h : u.share = 0) : b.delay n u = .zero := by
  ext
  rw [nanos_delay, h, shareNanos, mul_zero, nearest_zero, nearestNanos_zero, Nat.zero_min]
  rfl

theorem delay_mono (h : u ≤ v) : b.delay n u ≤ b.delay n v := by
  rw [le_def, nanos_delay, nanos_delay]
  exact min_le_min_right _ (shareNanos_mono u.share_nonneg (share_mono h))

/-- The first retry follows at once. -/
theorem ceiling_zero (b : Backoff) : b.ceiling 0 = .zero := by
  have hslots : roundedSlots 0 = 0 := by simp [roundedSlots]
  ext
  rw [nanos_ceiling b (by decide), ceilingSeconds]
  simp [hslots]

/-- For every time slot and every draw, a wait lies between zero and its ceiling and reaches both;
it grows with the draw, and the ceiling grows with the attempt, from zero on. -/
theorem jitter_stays_in_envelope (b : Backoff) :
    (∀ n u, b.delay n u ≤ b.ceiling n) ∧
    (∀ n u, .finite 1 ≤ u → b.delay n u = b.ceiling n) ∧
    (∀ n u, u ≤ .finite 0 ∨ u = .notANumber → b.delay n u = .zero) ∧
    (∀ n u v, u ≤ v → b.delay n u ≤ b.delay n v) ∧
    (∀ m n, m ≤ n → b.ceiling m ≤ b.ceiling n) ∧
    b.ceiling 0 = .zero := by
  refine ⟨b.delay_le_ceiling, fun n u h => delay_of_share_one (share_of_one_le h), fun n u h => ?_,
    fun n u v h => delay_mono h, fun m n h => ceiling_mono h, b.ceiling_zero⟩
  obtain h | rfl := h
  · exact delay_of_share_zero (share_of_le_zero h)
  · exact delay_of_share_zero rfl

/-- The time slot is so long that all ceilings but those of the first two attempts are cut, and the
draws are not all between zero and one. -/
theorem jitter_stays_in_envelope_of_longest_slot :
    let b : Backoff := ⟨.longest⟩
    (Binary64.finite 1 ≤ .positiveInfinity ∧ b.delay 3 .positiveInfinity = b.ceiling 3) ∧
    b.delay 3 .notANumber = .zero ∧
    (Binary64.finite (1 / 3) ≤ .finite (1 / 2) ∧
      b.delay 3 (.finite (1 / 3)) ≤ b.delay 3 (.finite (1 / 2))) ∧
    ((2 : UInt32) ≤ 4294967295 ∧ b.ceiling 2 ≤ b.ceiling 4294967295) := by
  intro b
  obtain ⟨-, hwhole, hnone, hdraws, hattempts, -⟩ := jitter_stays_in_envelope b
  have hle : Binary64.finite (1 / 3) ≤ .finite (1 / 2) := decide_eq_true (by norm_num)
  exact ⟨⟨by decide, hwhole 3 _ (by decide)⟩, hnone 3 _ (.inr rfl), ⟨hle, hdraws 3 _ _ hle⟩,
    by decide, hattempts 2 _ (by decide)⟩

/-- Seven time slots of a tenth of a second after the third retry, and half of them. -/
example :
    let b : Backoff := ⟨.ofMillis 100⟩
    b.ceiling 3 = .ofMillis 700 ∧ b.delay 3 (.finite (1 / 2)) = .ofMillis 350 := by
  decide +kernel

end Backoff

end ResilientProxy
