import ResilientProxy.Duration

/-!
# Retry loops

A retry loop numbers its attempts from zero and allows a fixed number of retries after the first. It
remembers when it was started.
-/

namespace ResilientProxy

/-- Where a retry loop stands. -/
structure RetryLoop where
  /-- Index of the current attempt. -/
  attempt : UInt32
  maxRetries : UInt32
  /-- What the machine's clock read at the start, in nanoseconds. -/
  started : Nat
  deriving DecidableEq, Repr

namespace RetryLoop

def start (maxRetries : UInt32) (started : Nat := 0) : RetryLoop := ⟨0, maxRetries, started⟩

/-- Attempts made so far, the current one included. -/
def attempts (r : RetryLoop) : UInt32 := r.attempt + 1

/-- Whether the current attempt is the last one allowed. -/
def exhausted (r : RetryLoop) : Bool := r.maxRetries ≤ r.attempt

def advance (r : RetryLoop) : RetryLoop := { r with attempt := r.attempt + 1 }

/-- How long the loop has taken when the machine's clock reads `uptime`. -/
def elapsed (r : RetryLoop) (uptime : Nat) : Duration := .between r.started uptime

@[simp] theorem attempt_start (n : UInt32) (m : Nat) : (start n m).attempt = 0 := rfl

@[simp] theorem maxRetries_start (n : UInt32) (m : Nat) : (start n m).maxRetries = n := rfl

@[simp] theorem started_start (n : UInt32) (m : Nat) : (start n m).started = m := rfl

@[simp] theorem maxRetries_advance (r : RetryLoop) : r.advance.maxRetries = r.maxRetries := rfl

@[simp] theorem started_advance (r : RetryLoop) : r.advance.started = r.started := rfl

section

variable {j m : Nat} {n : UInt32}

theorem toNat_ofNat (h : j ≤ n.toNat) : (UInt32.ofNat j).toNat = j :=
  UInt32.toNat_ofNat_of_lt' (Nat.lt_of_le_of_lt h n.toNat_lt_size)

theorem ofNat_pos (h : j ≤ n.toNat) : 0 < UInt32.ofNat j ↔ 0 < j := by
  rw [UInt32.lt_iff_toNat_lt, toNat_ofNat h]
  rfl

theorem ofNat_eq_zero (h : j ≤ n.toNat) : UInt32.ofNat j = 0 ↔ j = 0 := by
  rw [← UInt32.toNat_inj, toNat_ofNat h]
  rfl

theorem exhausted_mk (h : j ≤ n.toNat) : (mk (.ofNat j) n m).exhausted = true ↔ j = n.toNat := by
  simp only [exhausted, decide_eq_true_eq, UInt32.le_iff_toNat_le, toNat_ofNat h]
  omega

theorem lt_of_exhausted_mk (h : j ≤ n.toNat) (hx : (mk (.ofNat j) n m).exhausted = false) :
    j < n.toNat := by
  refine Nat.lt_of_le_of_ne h fun heq => ?_
  simp [(exhausted_mk h).mpr heq] at hx

theorem attempts_mk : (mk (.ofNat j) n m).attempts = .ofNat (j + 1) := by
  simp [attempts]

theorem advance_mk : (mk (.ofNat j) n m).advance = ⟨.ofNat (j + 1), n, m⟩ := by
  simp [advance]

end

end RetryLoop

end ResilientProxy
