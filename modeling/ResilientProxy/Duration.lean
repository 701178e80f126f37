/-!
# Lengths of time

A length of time is a whole number of nanoseconds below `2 ^ 64` seconds. The bound is part of the
type, so arithmetic on it has to say what becomes of a result that is too long. Which waits are too
long for a clock depends on the clock.
-/

namespace ResilientProxy

/-- Nanoseconds in one second. -/
def nanosPerSecond : Nat := 1000000000

/-- Nanoseconds in one millisecond. -/
def nanosPerMilli : Nat := 1000000

/-- A length of time, counted in nanoseconds. -/
structure Duration where
  nanos : Nat
  nanos_lt : nanos < UInt64.size * nanosPerSecond
  deriving DecidableEq, Repr

namespace Duration

def zero : Duration := ⟨0, by decide⟩

/-- One nanosecond less than `2 ^ 64` seconds. -/
def longest : Duration := ⟨UInt64.size * nanosPerSecond - 1, by decide⟩

instance : Inhabited Duration := ⟨zero⟩

instance : LE Duration := ⟨fun a b => a.nanos ≤ b.nanos⟩

instance (a b : Duration) : Decidable (a ≤ b) := inferInstanceAs (Decidable (a.nanos ≤ b.nanos))

def isZero (d : Duration) : Bool := d.nanos == 0

/-- The length of `n` nanoseconds, if there is one. -/
def ofNanos? (n : Nat) : Option Duration :=
  if h : n < UInt64.size * nanosPerSecond then some ⟨n, h⟩ else none

def ofSeconds (s : UInt64) : Duration :=
  ⟨s.toNat * nanosPerSecond, by have := s.toNat_lt_size; simp only [nanosPerSecond]; omega⟩

def ofMillis (ms : UInt64) : Duration :=
  ⟨ms.toNat * nanosPerMilli, by
    have := ms.toNat_lt_size; simp only [nanosPerSecond, nanosPerMilli]; omega⟩

/-- Whole seconds, rounded down. -/
def seconds (d : Duration) : Nat := d.nanos / nanosPerSecond

/-- What `seconds` leaves over, in nanoseconds. -/
def subsecondNanos (d : Duration) : Nat := d.nanos % nanosPerSecond

/-- Whole milliseconds, rounded down. -/
def millis (d : Duration) : Nat := d.nanos / nanosPerMilli

/-- Whole milliseconds, rounded up: the ticks of a millisecond clock before all of `d` has
passed. -/
def ceilMillis (d : Duration) : Nat := (d.nanos + (nanosPerMilli - 1)) / nanosPerMilli

/-- What lies between two readings of a clock that counts nanoseconds. -/
def between (started ended : Nat) : Duration := (ofNanos? (ended - started)).getD longest

@[ext] theorem ext {a b : Duration} (h : a.nanos = b.nanos) : a = b := by
  cases a; cases b; simp_all

theorem le_def {a b : Duration} : a ≤ b ↔ a.nanos ≤ b.nanos := Iff.rfl

@[simp] theorem nanos_zero : zero.nanos = 0 := rfl

@[simp] theorem nanos_ofSeconds (s : UInt64) :
    (ofSeconds s).nanos = s.toNat * nanosPerSecond := rfl

@[simp] theorem nanos_ofMillis (ms : UInt64) : (ofMillis ms).nanos = ms.toNat * nanosPerMilli := rfl

/-- Milliseconds read back exactly. -/
@[simp] theorem millis_ofMillis (ms : UInt64) : (ofMillis ms).millis = ms.toNat := by
  simp [millis, nanosPerMilli]

theorem millis_mono {a b : Duration} (h : a ≤ b) : a.millis ≤ b.millis :=
  Nat.div_le_div_right h

theorem le_longest (d : Duration) : d ≤ longest := by
  have := d.nanos_lt
  simp only [le_def, longest]
  omega

/-- `n` milliseconds are enough for all of `d` exactly if `ceilMillis` is no more. -/
theorem ceilMillis_le_iff {d : Duration} {n : Nat} :
    d.ceilMillis ≤ n ↔ d.nanos ≤ n * nanosPerMilli := by
  simp only [ceilMillis, nanosPerMilli]
  omega

theorem ceilMillis_eq_zero {d : Duration} (h : d.isZero = true) : d.ceilMillis = 0 := by
  have hn : d.nanos = 0 := by simpa [isZero] using h
  exact Nat.le_zero.mp (ceilMillis_le_iff.mpr (by simp [hn]))

end Duration

/-- A clock that counts milliseconds, and what it makes of a wait: one that would end at a moment
the clock cannot tell is replaced by one of a fixed length. -/
structure Clock where
  /-- Whether the clock can tell the moment that comes `ms` after `now`. -/
  tells : (now ms : Nat) → Bool
  tells_now : ∀ now, tells now 0 = true
  /-- Replaces the wait for a moment that the clock cannot tell. -/
  farFuture : Nat

namespace Clock

/-- A clock that can tell every moment. -/
def unbounded : Clock := ⟨fun _ _ => true, fun _ => rfl, 0⟩

/-- How long a wait of `ms` takes that begins at `now`. -/
def cut (k : Clock) (now ms : Nat) : Nat := if k.tells now ms then ms else k.farFuture

/-- When a wait ends that begins at `now`. -/
def after (k : Clock) (now : Nat) (d : Duration) : Nat := now + k.cut now d.ceilMillis

variable {k : Clock} {now : Nat} {d : Duration}

theorem after_of_tells (h : k.tells now d.ceilMillis = true) :
    k.after now d = now + d.ceilMillis := by
  simp [after, cut, h]

@[simp] theorem after_unbounded : unbounded.after now d = now + d.ceilMillis :=
  after_of_tells rfl

/-- An empty wait is over at once. -/
theorem after_of_isZero (h : d.isZero = true) : k.after now d = now := by
  rw [after_of_tells (by rw [d.ceilMillis_eq_zero h, k.tells_now]), d.ceilMillis_eq_zero h,
    Nat.add_zero]

end Clock

end ResilientProxy
