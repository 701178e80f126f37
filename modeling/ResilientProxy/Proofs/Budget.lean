import Mathlib.Algebra.Ring.Nat
import ResilientProxy.Proofs.Jobs

/-!
# What a task still has to pay

Every turn of a task and every call of the channel has a price, and every stage an upper bound for
what the task can still come to pay. A turn takes its price off that bound. So the configured
retries bound what a task costs, also where the loop of an opening runs inside the loop of a call.
-/

namespace ResilientProxy

namespace RetryLoop

/-- `r` is at one of its attempts, with `n` retries in all. -/
structure Within (r : RetryLoop) (n : UInt32) : Prop where
  maxRetries : r.maxRetries = n
  attempt_le : r.attempt ≤ n

/-- `r` is at one of its attempts, and not at the last one. -/
structure HasNext (r : RetryLoop) (n : UInt32) : Prop where
  maxRetries : r.maxRetries = n
  attempt_lt : r.attempt < n

/-- The retries after the current attempt. -/
def left (r : RetryLoop) : Nat := r.maxRetries.toNat - r.attempt.toNat

variable {r : RetryLoop} {n : UInt32}

theorem within_start (n : UInt32) (m : Nat) : (start n m).Within n := ⟨rfl, UInt32.zero_le⟩

@[simp] theorem left_start (n : UInt32) (m : Nat) : (start n m).left = n.toNat := rfl

theorem Within.hasNext (h : r.Within n) (hx : r.exhausted = false) : r.HasNext n := by
  have hlt : ¬ r.maxRetries ≤ r.attempt := by simpa [exhausted] using hx
  exact ⟨h.maxRetries, h.maxRetries ▸ UInt32.not_le.mp hlt⟩

theorem HasNext.within (h : r.HasNext n) : r.Within n :=
  ⟨h.maxRetries, UInt32.le_of_lt h.attempt_lt⟩

theorem toNat_attempts (h : r.attempt.toNat < 2 ^ 32 - 1) :
    r.attempts.toNat = r.attempt.toNat + 1 := by
  rw [attempts, UInt32.toNat_add, UInt32.toNat_one]
  exact Nat.mod_eq_of_lt (by omega)

theorem HasNext.toNat_advance (h : r.HasNext n) :
    r.advance.attempt.toNat = r.attempt.toNat + 1 := by
  have hlt : r.attempt.toNat < n.toNat := UInt32.lt_iff_toNat_lt.mp h.attempt_lt
  have hn : n.toNat < 2 ^ 32 := n.toNat_lt
  exact toNat_attempts (by omega)

theorem HasNext.advance (h : r.HasNext n) : r.advance.Within n := by
  have hlt : r.attempt.toNat < n.toNat := UInt32.lt_iff_toNat_lt.mp h.attempt_lt
  refine ⟨h.maxRetries, UInt32.le_iff_toNat_le.mpr ?_⟩
  rw [h.toNat_advance]
  exact hlt

theorem HasNext.left_advance (h : r.HasNext n) : r.left = r.advance.left + 1 := by
  have hlt : r.attempt.toNat < n.toNat := UInt32.lt_iff_toNat_lt.mp h.attempt_lt
  rw [left, left, h.toNat_advance, maxRetries_advance, h.maxRetries]
  omega

end RetryLoop

/-- A call that has an opening made has another attempt to come. -/
def Opener.InBudget (config : Config) : Opener → Prop
  | .owner => True
  | .call c => c.retry.HasNext config.maxCallRetries

/-- All retry loops of a stage are at an attempt that the configuration allows, and before the next
one if the stage is one between attempts. -/
def Stage.InBudget (config : Config) : Stage → Prop
  | .awaitingLock (.connect o) => o.InBudget config
  | .connecting o r | .replacing o r _ _ _ => o.InBudget config ∧ r.Within config.maxOpenRetries
  | .connectPause o r _ => o.InBudget config ∧ r.HasNext config.maxOpenRetries
  | .awaitingLock (.attempt c) | .attempting c _ _ _ => c.retry.Within config.maxCallRetries
  | .callPause c _ => c.retry.HasNext config.maxCallRetries
  | _ => True

/-- The retry loop that a call for which a connection is opened is in. -/
def Opener.loops : Opener → List RetryLoop
  | .owner => []
  | .call c => [c.retry]

/-- The retry loops that a task at a stage is in, the inner one first. -/
def Stage.loops : Stage → List RetryLoop
  | .awaitingLock (.connect o) => o.loops
  | .connecting o r | .connectPause o r _ | .replacing o r _ _ _ => r :: o.loops
  | .awaitingLock (.attempt c) | .attempting c _ _ _ | .callPause c _ => [c.retry]
  | _ => []

theorem Opener.InBudget.within {config : Config} {o : Opener} (h : o.InBudget config)
    {r : RetryLoop} (hr : r ∈ o.loops) : r.Within config.maxCallRetries := by
  cases o with
  | owner => exact nomatch hr
  | call c =>
    obtain rfl := List.mem_singleton.mp hr
    exact RetryLoop.HasNext.within h

theorem Stage.InBudget.within {config : Config} {s : Stage} (h : s.InBudget config)
    {r : RetryLoop} (hr : r ∈ s.loops) :
    r.Within config.maxOpenRetries ∨ r.Within config.maxCallRetries := by
  cases s with
  | awaitingLock goal =>
    cases goal with
    | connect o => exact .inr (Opener.InBudget.within h hr)
    | attempt c =>
      obtain rfl := List.mem_singleton.mp hr
      exact .inr h
    | close | abort => exact nomatch hr
  | connecting o r' | replacing o r' =>
    obtain rfl | hr := List.mem_cons.mp hr
    · exact .inl h.2
    · exact .inr (h.1.within hr)
  | connectPause o r' =>
    obtain rfl | hr := List.mem_cons.mp hr
    · exact .inl h.2.within
    · exact .inr (h.1.within hr)
  | attempting c =>
    obtain rfl := List.mem_singleton.mp hr
    exact .inr h
  | callPause c =>
    obtain rfl := List.mem_singleton.mp hr
    exact .inr (RetryLoop.HasNext.within h)
  | _ => exact nomatch hr

/-- The check keeps retries within the limit. -/
theorem Config.retries_le_of_check {config : Config} (h : config.check = .ok ()) :
    config.maxOpenRetries ≤ maxRetriesLimit ∧ config.maxCallRetries ≤ maxRetriesLimit := by
  simp only [check, checkRetries, bind, Except.bind] at h
  by_cases hopen : maxRetriesLimit < config.maxOpenRetries
  · simp [hopen] at h
  · by_cases hcall : maxRetriesLimit < config.maxCallRetries
    · simp [hopen, hcall] at h
    · exact ⟨UInt32.not_lt.mp hopen, UInt32.not_lt.mp hcall⟩

namespace ChannelCall

def isClose : ChannelCall → Bool
  | close _ => true
  | _ => false

def isInvoke : ChannelCall → Bool
  | invoke .. => true
  | _ => false

end ChannelCall

/-- What a turn costs, and what the calls of the channel cost. -/
structure Prices where
  turn : Nat
  connect : Nat
  close : Nat
  invoke : Nat

namespace Prices

variable (w : Prices) (config : Config)

def price : ChannelCall → Nat
  | .connect => w.connect
  | .close _ => w.close
  | .abort _ => 0
  | .invoke .. => w.invoke

def paid (calls : List ChannelCall) : Nat := (calls.map w.price).sum

/-- What an opening can still cost when the channel has been asked for a connection, and can be
asked `n` times more. -/
def opening (n : Nat) : Nat :=
  -- a retry is the failure and the end of a pause; at last a connection, and the close of the old
  n * (2 * w.turn + w.connect) + (2 * w.turn + w.close)

/-- What an opening can cost from the lock on. -/
def reopening : Nat := w.turn + w.connect + w.opening config.maxOpenRetries.toNat

/-- What a call can still cost with an attempt with the channel and `n` retries left. -/
def attempting (n : Nat) : Nat :=
  -- a retry is the failure, the opening, the end of a pause, and the next attempt
  n * (w.turn + w.reopening config + w.turn + w.turn + w.invoke) + w.turn

/-- What a call can still cost from the lock on. -/
def beginning (n : Nat) : Nat := w.turn + w.invoke + w.attempting config n

/-- What a task can still cost when the opening has ended. -/
def afterOpening : Opener → Nat
  | .owner => 0
  | .call c => w.turn + w.beginning config c.advance.retry.left

def forGoal : Goal → Nat
  | .connect o => w.reopening config + w.afterOpening config o
  | .close | .abort => 3 * w.turn + w.close
  | .attempt c => w.beginning config c.retry.left

/-- What a task can still cost. When a task begins makes no difference. -/
def toPay : Stage → Nat
  | .queued job => w.turn + w.forGoal config (job.goal config 0)
  | .awaitingLock goal => w.forGoal config goal
  | .connecting o r => w.opening r.left + w.afterOpening config o
  | .connectPause o r _ =>
    w.turn + w.connect + w.opening r.advance.left + w.afterOpening config o
  | .replacing o _ _ _ _ => w.turn + w.afterOpening config o
  | .draining .. | .teardownClosing _ => w.turn
  | .aborting _ | .teardownAborting _ => 2 * w.turn + w.close
  | .attempting c _ _ _ => w.attempting config c.retry.left
  | .callPause c _ => w.turn + w.beginning config c.advance.retry.left
  | .teardownQueued .. => 3 * w.turn + w.close
  | .finished _ => 0

theorem opening_succ (n : Nat) :
    w.opening (n + 1) = w.turn + (w.turn + w.connect + w.opening n) := by
  simp only [opening, Nat.succ_mul]
  omega

theorem attempting_succ (n : Nat) : w.attempting config (n + 1) =
    w.turn + w.reopening config + w.turn + w.beginning config n := by
  simp only [attempting, beginning, Nat.succ_mul]
  omega

theorem turn_le_opening (n : Nat) : 2 * w.turn + w.close ≤ w.opening n := Nat.le_add_left ..

theorem turn_le_attempting (n : Nat) : w.turn ≤ w.attempting config n := Nat.le_add_left ..

/-- The price of the call that a task at a stage waits for. -/
def due (s : Stage) : Nat := s.pending.elim 0 w.price

theorem paid_eq (calls : List ChannelCall) : w.paid calls = w.connect * calls.count .connect +
    w.close * calls.countP ChannelCall.isClose + w.invoke * calls.countP ChannelCall.isInvoke := by
  induction calls with
  | nil => rfl
  | cons call calls ih =>
    rw [paid, List.map_cons, List.sum_cons, ← paid, ih]
    cases call <;> simp [price, List.countP_cons, ChannelCall.isClose, ChannelCall.isInvoke,
      Nat.mul_succ] <;> omega

theorem paid_append (as bs : List ChannelCall) : w.paid (as ++ bs) = w.paid as + w.paid bs := by
  simp [paid]

end Prices

namespace Proxy

variable {p q : Proxy} {t : TaskId} {s s' : Stage} {es : List Happening}

theorem Leaves.inBudget {o : Opener} {result : Except ConnectionError OpenOutcome} {l : Lock}
    (h : p.Leaves t o result s es l) (ho : o.InBudget p.config) : s.InBudget p.config := by
  cases h with
  | owner | failed => trivial
  | reopened => exact RetryLoop.HasNext.advance ho
  | alreadyOpen => exact ho

/-- Every turn keeps the retry loops of its task in budget. -/
theorem Turn.inBudget (h : p.Turn t s s' es q) (hs : s.InBudget p.config) :
    s'.InBudget p.config := by
  cases h with
  | @began job =>
    cases job with
    | connect | close | abort => trivial
    | invoke => exact RetryLoop.within_start _ _
  | foundOpen _ _ _ hx => exact hx.inBudget hs
  | foundFaulted | foundClosed | foundEmpty => exact ⟨hs, RetryLoop.within_start _ _⟩
  | connected _ hx | replaced _ _ hx | connectFailed _ hx => exact hx.inBudget hs.1
  | connectedOver => exact hs
  | connectPaused _ hr | connectBackedOff _ hr => exact ⟨hs.1, hs.2.hasNext hr⟩
  | connectAgain => exact ⟨hs.1, hs.2.advance⟩
  | attemptSent | allocated | arenaShort => exact hs
  | lostConnection _ _ hx | backedOff _ _ hx => exact RetryLoop.Within.hasNext hs hx
  | paused => exact RetryLoop.HasNext.advance hs
  | _ => trivial

theorem Turn.paid_le (w : Prices) (h : p.Turn t s s' es q) :
    w.paid (es.filterMap Happening.started) ≤ w.due s' := by
  cases h.calls with
  | nothing hno => simp [hno, Prices.paid]
  | starts hno hs =>
    simp [Happening.started, hno, Prices.paid, Prices.due, hs]

theorem Leaves.toPay_le (w : Prices) {o : Opener} {result : Except ConnectionError OpenOutcome}
    {l : Lock} (h : p.Leaves t o result s es l) :
    w.due s + w.toPay p.config s ≤ w.afterOpening p.config o := by
  cases h <;> simp [Prices.due, Stage.pending, Prices.toPay, Prices.afterOpening, Prices.forGoal]

/-- A turn, and the call of the channel that it starts, are paid for by what the task has less to
pay afterwards. -/
theorem Turn.pays (w : Prices) (h : p.Turn t s s' es q) (hs : s.InBudget p.config)
    (hn : (s.isAttempting && s'.isAttempting) = false) :
    w.turn + w.due s' + w.toPay p.config s' ≤ w.toPay p.config s := by
  cases h with
  | @began job => cases job <;> exact Nat.le_of_eq rfl
  | foundOpen _ _ _ hx =>
    have hle := hx.toPay_le w
    change _ ≤ w.turn + w.connect + w.opening _ + w.afterOpening _ _
    omega
  | foundFaulted | foundClosed | foundEmpty =>
    simp only [Prices.due, Stage.pending, Option.elim, Prices.price, Prices.toPay, Prices.forGoal,
      Prices.reopening, RetryLoop.left_start]
    omega
  | @connected o r _ _ _ _ _ hx | @connectFailed o r _ _ _ _ _ hx =>
    have hle := hx.toPay_le w
    have hopen := w.turn_le_opening r.left
    change _ ≤ w.opening r.left + w.afterOpening _ o
    omega
  | @connectedOver o r =>
    have hopen := w.turn_le_opening r.left
    simp only [Prices.due, Stage.pending, Option.elim, Prices.price, Prices.toPay]
    omega
  | replaced _ _ hx =>
    have hle := hx.toPay_le w
    change _ ≤ w.turn + w.afterOpening _ _
    omega
  | @connectPaused o r _ _ hr | @connectBackedOff o r _ _ _ _ hr =>
    have hnext := (hs.2.hasNext hr).left_advance
    simp only [Prices.due, Stage.pending, Option.elim, Prices.toPay, hnext, Prices.opening_succ]
    omega
  | connectAgain =>
    simp only [Prices.due, Stage.pending, Option.elim, Prices.price, Prices.toPay]
    omega
  | @closeStarted stop | @stoppedClosed stop | @stoppedEmpty stop =>
    cases stop <;>
      simp only [Stop.goal, Prices.due, Stage.pending, Option.elim, Prices.price, Prices.toPay,
        Prices.forGoal] <;> omega
  | abortStarted | aborted | abortedEmpty | abortRefused | drained | teardownAborts
  | teardownCloses | teardownAborted | teardownClosed =>
    simp only [Prices.due, Stage.pending, Option.elim, Prices.price, Prices.toPay, Prices.forGoal]
    omega
  | attemptedEmpty | arenaRefused | attemptSent =>
    simp only [Prices.due, Stage.pending, Option.elim, Prices.price, Prices.toPay, Prices.forGoal,
      Prices.beginning]
    omega
  | allocated | arenaShort => simp [Stage.isAttempting] at hn
  | @answered c | @failedForGood c | @brokeDown c =>
    have hle := w.turn_le_attempting p.config c.retry.left
    simp only [Prices.due, Stage.pending, Option.elim, Prices.toPay]
    omega
  | @lostConnection c _ _ _ _ _ _ _ hx | @backedOff c _ _ _ _ _ _ _ _ _ hx =>
    have hnext := (RetryLoop.Within.hasNext hs hx).left_advance
    simp only [Prices.due, Stage.pending, Option.elim, Prices.toPay, Prices.forGoal,
      Prices.afterOpening, Call.advance, hnext, Prices.attempting_succ]
    omega
  | paused =>
    simp only [Prices.due, Stage.pending, Option.elim, Prices.toPay, Prices.forGoal]
    omega

/-- A turn for scratch memory is free. -/
theorem Turn.paid_add_toPay_le (w : Prices) (h : p.Turn t s s' es q) (hs : s.InBudget p.config) :
    w.paid (es.filterMap Happening.started) + w.toPay p.config s' ≤ w.toPay p.config s := by
  by_cases hn : (s.isAttempting && s'.isAttempting) = true
  · cases h with
    | allocated | arenaShort => exact Nat.le_of_eq (Nat.zero_add _)
    | _ => simp [Stage.isAttempting] at hn
  · have hpays := h.pays w hs (Bool.not_eq_true _ ▸ hn)
    have hpaid := h.paid_le w
    omega

/-- The calls of the channel that a task has started, the latest first. -/
def startedBy (p : Proxy) (t : TaskId) : List ChannelCall :=
  (p.eventsOf t).filterMap (·.what.started)

theorem ofLoop_of_started {x : Happening} {call : ChannelCall} (h : x.started = some call) :
    x.ofLoop = true := by
  cases x with
  | callStarted => rfl
  | _ => exact nomatch h

/-- What is not told of a loop are no calls of the channel. -/
theorem filterMap_started_filter {α : Type} (f : α → Happening) (l : List α) :
    (l.filter fun a => (f a).ofLoop).filterMap (fun a => (f a).started) =
      l.filterMap fun a => (f a).started := by
  rw [List.filterMap_filter]
  congr 1
  funext a
  cases hs : (f a).started with
  | none => simp
  | some call => rw [if_pos (ofLoop_of_started hs)]

theorem startedBy_eq : p.startedBy t = (p.loopEvents t).filterMap (·.what.started) := by
  rw [startedBy, loopEvents_eq, filterMap_started_filter]

theorem started_told (time : Nat) (t : TaskId) (es : List Happening) :
    (told time t es).filterMap (·.what.started) = es.filterMap Happening.started := by
  rw [told, List.filterMap_map]
  exact filterMap_started_filter id es

/-- A task is in budget, and what it has paid and still has to pay is no more than what it had to
pay when it was submitted. -/
structure OnBudget (w : Prices) (config : Config) (_ : Clock) (_ : Nat) (t : TaskId) (s : Stage)
    (es : List Event) : Prop where
  inBudget : s.InBudget config
  paid : ∀ time job, ⟨time, some t, .submitted job⟩ ∈ es →
    w.paid (es.filterMap (·.what.started)) + w.toPay config s ≤ w.toPay config (.queued job)

theorem preserved_onBudget (w : Prices) : Preserved (OnBudget w) where
  queued config _ now t job := by
    refine ⟨trivial, fun time job' hm => ?_⟩
    obtain ⟨-, rfl⟩ : time = now ∧ job' = job := by simpa using hm
    exact Nat.le_of_eq (Nat.zero_add _)
  teardown _ _ _ _ _ _ := ⟨trivial, fun _ _ hm => nomatch hm⟩
  turn p q t s s' es old h hturn := by
    refine ⟨hturn.inBudget h.inBudget, fun time job hm => ?_⟩
    have hold := h.paid time job (hturn.submitted_mem hm)
    have hpay := hturn.paid_add_toPay_le w h.inBudget
    rw [List.filterMap_append, Prices.paid_append, started_told]
    omega
  later _ _ _ _ _ _ _ _ h := ⟨h.inBudget, h.paid⟩
  vanished _ _ _ _ _ _ _ h := by
    refine ⟨trivial, fun time job hm => ?_⟩
    exact Nat.le_trans (Nat.add_le_add_left (Nat.zero_le _) _) (h.paid time job hm)

theorem Attainable.inBudget (h : p.Attainable) (ht : p.At t s) : s.InBudget p.config :=
  (h.tasks_of_preserved (preserved_onBudget ⟨0, 0, 0, 0⟩) t s ht).inBudget

/-- Whatever the prices are, the calls that a task starts cost no more than what it had to pay when
it was submitted. -/
theorem Attainable.paid_startedBy_le (h : p.Attainable) (w : Prices) {time : Nat} {job : Job}
    (hm : ⟨time, some t, .submitted job⟩ ∈ p.history) :
    w.paid (p.startedBy t) ≤ w.toPay p.config (.queued job) := by
  have hlt : t < p.tasks.length := h.tasksExist _ hm t rfl
  have hpaid := (h.tasks_of_preserved (preserved_onBudget w) t _
    (List.getElem?_eq_getElem hlt)).paid time job
    (List.mem_filter.mpr ⟨hm, by simp [Happening.ofLoop]⟩)
  rw [startedBy_eq]
  omega

theorem Attainable.valid (h : p.Attainable) : p.config.check = .ok () := by
  obtain ⟨start, hf, hs⟩ := h
  rw [hs.config]
  exact hf.valid

/-- A retry loop never comes near the point where its counter would wrap. -/
theorem Attainable.loop_le (h : p.Attainable) (ht : p.At t s) {r : RetryLoop} (hr : r ∈ s.loops) :
    r.attempt ≤ r.maxRetries ∧ r.maxRetries ≤ 32 ∧
      r.attempts.toNat = r.attempt.toNat + 1 ∧ r.advance.attempt.toNat = r.attempt.toNat + 1 := by
  obtain ⟨hopen, hcall⟩ := Config.retries_le_of_check h.valid
  have hmax : r.attempt ≤ r.maxRetries ∧ r.maxRetries ≤ maxRetriesLimit := by
    obtain hw | hw := (h.inBudget ht).within hr
    · exact hw.maxRetries.symm ▸ ⟨hw.attempt_le, hopen⟩
    · exact hw.maxRetries.symm ▸ ⟨hw.attempt_le, hcall⟩
  have hlt : r.attempt.toNat < 2 ^ 32 - 1 := by
    have hle : r.attempt.toNat ≤ maxRetriesLimit.toNat :=
      UInt32.le_iff_toNat_le.mp (UInt32.le_trans hmax.1 hmax.2)
    exact Nat.lt_of_le_of_lt hle (by decide)
  exact ⟨hmax.1, hmax.2, RetryLoop.toNat_attempts hlt, RetryLoop.toNat_attempts hlt⟩

theorem connect_calls_le (h : p.Attainable) {time : Nat}
    (hm : ⟨time, some t, .submitted .connect⟩ ∈ p.history) :
    (p.startedBy t).count .connect ≤ p.config.maxOpenRetries.toNat + 1 ∧
      (p.startedBy t).countP ChannelCall.isClose ≤ 1 := by
  have hconnects := h.paid_startedBy_le ⟨0, 1, 0, 0⟩ hm
  have hcloses := h.paid_startedBy_le ⟨0, 0, 1, 0⟩ hm
  rw [Prices.paid_eq] at hconnects hcloses
  simp only [Prices.toPay, Job.goal, Prices.forGoal, Prices.reopening, Prices.opening,
    Prices.afterOpening] at hconnects hcloses
  omega

theorem invoke_calls_le (h : p.Attainable) {time : Nat} {operation request : String}
    {arenaSize : Nat}
    (hm : ⟨time, some t, .submitted (.invoke operation arenaSize request)⟩ ∈ p.history) :
    (p.startedBy t).countP ChannelCall.isInvoke ≤ p.config.maxCallRetries.toNat + 1 ∧
      (p.startedBy t).count .connect ≤
        p.config.maxCallRetries.toNat * (p.config.maxOpenRetries.toNat + 1) ∧
      (p.startedBy t).countP ChannelCall.isClose ≤ p.config.maxCallRetries.toNat := by
  have hinvokes := h.paid_startedBy_le ⟨0, 0, 0, 1⟩ hm
  have hconnects := h.paid_startedBy_le ⟨0, 1, 0, 0⟩ hm
  have hcloses := h.paid_startedBy_le ⟨0, 0, 1, 0⟩ hm
  rw [Prices.paid_eq] at hinvokes hconnects hcloses
  simp [Prices.toPay, Job.goal, Prices.forGoal, Prices.beginning, Prices.attempting,
    Prices.reopening, Prices.opening] at hinvokes hconnects hcloses
  exact ⟨by omega, by rw [Nat.add_comm _ 1]; exact hconnects, hcloses⟩

end Proxy

end ResilientProxy
