import ResilientProxy.Proofs.History
import ResilientProxy.Proofs.Slot

/-!
# Operations under way

An operation on the connection lasts from the moment its task gets the lock for it until the task
gives the lock back. The history tells which operation a task has under way and what the channel
reported when it began. As long as there is a runtime, this agrees with where the tasks stand, and
what an operation found at its beginning is what the slot says until its end.
-/

namespace ResilientProxy

/-- Whether the lock is wanted for an operation on the connection, and not just for a look at it. -/
def Goal.isOperation : Goal → Bool
  | .attempt _ => false
  | _ => true

/-- An operation on the connection. -/
structure Operation where
  goal : Goal
  /-- What the channel reported first, if there was a connection to ask about. -/
  report : Option ConnState
  deriving DecidableEq

namespace Operation

/-- The state that the operation found the connection in. -/
def found (o : Operation) : ConnState := o.report.getD .closed

end Operation

/-- What becomes of the operation that a task has under way when this happens in it. -/
def Happening.carry (x : Happening) (o : Option Operation) : Option Operation :=
  match x with
  | .lockTaken goal => if goal.isOperation then some ⟨goal, none⟩ else o
  | .queried _ s => o.map fun o => { o with report := o.report.or (some s) }
  | .lockReleased => none
  | _ => o

/-- The operation that task `t` has under way at the end of a history. -/
def underWay (t : TaskId) : List Event → Option Operation
  | [] => none
  | e :: h => if e.task = some t then e.what.carry (underWay t h) else underWay t h

/-- The goal of the operation that a task at this stage has under way. -/
def Stage.operation : Stage → Option Goal
  | .connecting o _ | .connectPause o .. | .replacing o .. => some (.connect o)
  | .draining stop .. => some stop.goal
  | .aborting _ => some .abort
  | _ => none

/-- A task at this stage has `o` under way, and `o` found the connection in state `state`. -/
def Stage.Carries (s : Stage) (state : ConnState) (o : Option Operation) : Prop :=
  o.map (·.goal) = s.operation ∧ ∀ x ∈ o, x.found = state

theorem Stage.operation_eq_none_iff {s : Stage} : s.operation = none ↔ s.grip ≠ .holding := by
  cases s <;> simp [operation, grip]

theorem Stage.carries_none {s : Stage} (h : s.operation = none) (state : ConnState) :
    s.Carries state none :=
  ⟨h.symm, nofun⟩

theorem Stage.carries_some {s : Stage} {o : Operation} {state : ConnState}
    (hs : s.operation = some o.goal) (hf : o.found = state) : s.Carries state (some o) :=
  ⟨hs.symm, by simpa using hf⟩

theorem Stage.Carries.eq_none {s : Stage} {state : ConnState} {o : Option Operation}
    (h : s.Carries state o) (hs : s.operation = none) : o = none :=
  Option.map_eq_none_iff.mp (h.1.trans hs)

theorem underWay_turn (time : Nat) (t : TaskId) (es : List Happening) (h : List Event) :
    underWay t (es.map (⟨time, some t, ·⟩) ++ h) = es.foldr Happening.carry (underWay t h) := by
  induction es with
  | nil => rfl
  | cons e es ih => simp [underWay, ih]

theorem underWay_of_ne {t : TaskId} {new : List Event} (h : ∀ e ∈ new, e.task ≠ some t)
    (old : List Event) : underWay t (new ++ old) = underWay t old := by
  induction new with
  | nil => rfl
  | cons e new ih =>
    rw [List.forall_mem_cons] at h
    rw [List.cons_append, underWay, if_neg h.1, ih h.2]

/-- An operation that is no longer under way has given the lock back. -/
theorem exists_lockReleased {t : TaskId} {goal : Goal} {e : Event} {between before : List Event}
    (ht : e.task = some t) (he : e.what = .lockTaken goal) (hg : goal.isOperation = true)
    (h : underWay t (between ++ e :: before) = none) :
    ∃ x ∈ between, x.task = some t ∧ x.what = .lockReleased := by
  by_contra hno
  have hsome : (underWay t (between ++ e :: before)).isSome = true := by
    clear h
    induction between with
    | nil => simp [underWay, ht, he, Happening.carry, hg]
    | cons x l ih =>
      have hx : ¬ (x.task = some t ∧ x.what = .lockReleased) := fun hx =>
        hno ⟨x, List.mem_cons_self, hx⟩
      have hl := ih fun ⟨y, hy, hyt⟩ => hno ⟨y, List.mem_cons_of_mem _ hy, hyt⟩
      rw [List.cons_append, underWay]
      split
      · rename_i hxt
        cases hw : x.what with
        | lockReleased => exact absurd ⟨hxt, hw⟩ hx
        | lockTaken goal' =>
          simp only [Happening.carry]
          split
          · rfl
          · exact hl
        | queried conn s => simpa [Happening.carry] using hl
        | _ => exact hl
      · exact hl
  simp [h] at hsome

namespace Proxy

variable {p q : Proxy} {t : TaskId} {s s' : Stage} {es : List Happening}

theorem Noted.carry (h : Noted es) (o : Option Operation) : es.foldr Happening.carry o = o := by
  induction es with
  | nil => rfl
  | cons e es ih =>
    rw [Noted, List.forall_mem_cons] at h
    obtain ⟨⟨n, rfl⟩, hes⟩ := h
    exact ih hes

theorem CloseEnds.carry {d : Option Nat} {ending : Happening} {r : Except ChannelError Unit}
    (h : p.CloseEnds d ending r) (o : Option Operation) : ending.carry o = o := by
  cases h <;> rfl

theorem AttemptFails.carry {d : Option Nat} {ending : Happening} {e : ChannelError}
    (h : p.AttemptFails d ending e) (o : Option Operation) : ending.carry o = o := by
  cases h <;> rfl

theorem Leaves.carries {o : Opener} {result : Except ConnectionError OpenOutcome} {l : Lock}
    (h : p.Leaves t o result s es l) (state : ConnState) :
    s.Carries state (es.foldr Happening.carry none) := by
  cases h <;> exact Stage.carries_none rfl state

/-- A turn begins an operation with what it finds, goes on with it, or ends it. -/
theorem Turn.carries (h : p.Turn t s s' es q) {o : Option Operation}
    (ho : s.Carries p.slot.state o) :
    s'.Carries q.slot.state (es.foldr Happening.carry o) := by
  have hnone : s.operation = none → es.foldr Happening.carry none = none →
      s'.operation = none → s'.Carries q.slot.state (es.foldr Happening.carry o) :=
    fun hs hes hs' => by
      rw [ho.eq_none hs, hes]
      exact Stage.carries_none hs' _
  cases h with
  | foundOpen _ _ _ hx | connectFailed _ hx | connected _ hx | replaced _ _ hx =>
    rw [List.foldr_append]
    exact hx.carries _
  | foundFaulted | foundClosed | foundEmpty | abortStarted => exact Stage.carries_some rfl rfl
  | @closeStarted stop => cases stop <;> exact Stage.carries_some rfl rfl
  | connectPaused | connectBackedOff =>
    simp only [List.foldr_cons, List.foldr_append, (p.noted_willReopenNotes _ _).carry]
    exact ho
  | lostConnection he | backedOff he =>
    refine hnone rfl ?_ rfl
    simp only [List.foldr_cons, List.foldr_append, (p.noted_willRetryNotes _ _).carry, he.carry]
    rfl
  | teardownAborted he =>
    refine hnone rfl ?_ rfl
    simp only [List.foldr_cons, List.foldr_append, (p.noted_teardownAbortNotes _).carry, he.carry]
    rfl
  | failedForGood he | teardownClosed he =>
    refine hnone rfl ?_ rfl
    simp only [List.foldr_cons, he.carry]
    rfl
  | @stoppedClosed stop | @stoppedEmpty stop => cases stop <;> exact hnone rfl rfl rfl
  | drained | abortedEmpty | abortRefused => exact Stage.carries_none rfl _
  | connectedOver | connectAgain | aborted => exact ho
  | _ => exact hnone rfl rfl rfl

/-- As long as there is a runtime, the history and the stages agree about what is under way. -/
def Tracked (p : Proxy) : Prop :=
  p.running = true → ∀ t s, p.At t s → s.Carries p.slot.state (underWay t p.history)

theorem Aside.underWay (h : p.Aside q) (t : TaskId) :
    underWay t q.history = underWay t p.history := by
  obtain ⟨new, hh, hnew⟩ := h.history
  rw [hh]
  exact underWay_of_ne (fun e he => by simp [(hnew e he).2.1]) _

/-- A task that does not exist has nothing under way. -/
theorem TasksExist.underWay_eq_none (h : p.TasksExist) (ht : p.tasks.length ≤ t) :
    underWay t p.history = none := by
  rw [← List.append_nil p.history]
  exact underWay_of_ne (fun e he heq => Nat.not_lt.mpr ht (h e he t heq)) []

theorem Tracked.of_aside (h : p.Tracked) (ha : p.Aside q) (hr : q.running = p.running)
    (hs : q.slot.state = p.slot.state) (ht : q.tasks = p.tasks) : q.Tracked := by
  intro hrun t s hat
  rw [hs, ha.underWay]
  exact h (hr ▸ hrun) t s (by simpa [At, ht] using hat)

/-- When the lock is free, no operation is under way. -/
theorem Tracked.of_free (h : p.Tracked) (ho : p.InOrder) (hl : p.lock.owner = none)
    (ha : p.Aside q) (hr : q.running = p.running) (ht : q.tasks = p.tasks) : q.Tracked := by
  intro hrun t s hat
  have hat' : p.At t s := by simpa [At, ht] using hat
  have hoff : p.grip t = .off := Orderly.off_of_free ho hl t
  have hs : s.operation = none := Stage.operation_eq_none_iff.mpr (by simp [← hat'.grip, hoff])
  rw [ha.underWay, (h (hr ▸ hrun) t s hat').eq_none hs]
  exact Stage.carries_none hs _

theorem Tracked.turn (h : p.Tracked) (ho : p.InOrder) (ht : p.At t s)
    (hturn : p.Turn t s s' es q) : (q.goOn t s' es).Tracked := by
  have hf := hturn.frame
  intro hr u r hu
  rw [goOn_running, hf.running] at hr
  rw [goOn_slot, goOn_history, hf.history]
  obtain ⟨rfl, rfl⟩ | ⟨hne, hu⟩ := (at_goOn ht hf.tasks).mp hu
  · rw [underWay_turn]
    exact hturn.carries (h hr u s ht)
  · have hother : underWay u (es.map (⟨q.now, some t, ·⟩) ++ p.history) = underWay u p.history :=
      underWay_of_ne (by simpa using fun _ _ => hne.symm) _
    rw [hother]
    have hc := h hr u r hu
    by_cases hg : r.grip = .holding
    · rwa [hturn.slot_eq ho ht hu hne hg]
    · have hs := Stage.operation_eq_none_iff.mpr hg
      rw [hc.eq_none hs]
      exact Stage.carries_none hs _

theorem Tracked.dropping (h : p.Tracked) (he : p.TasksExist) (hd : p.Dropping q) : q.Tracked := by
  cases hd with
  | empty => exact h
  | closed hc hs => exact h.of_aside (Dropping.closed hc hs).aside rfl rfl rfl
  | outside hc hs hr => exact h.of_aside (Dropping.outside hc hs hr).aside rfl rfl rfl
  | running hc hs hr =>
    intro hrun t s hat
    rw [(Dropping.running hc hs hr).aside.underWay]
    obtain ht | ⟨rfl, rfl⟩ := at_append rfl hat
    · exact h hrun t s ht
    · rw [he.underWay_eq_none (Nat.le_refl _)]
      exact Stage.carries_none rfl _

theorem Stretch.tracked (hs : p.Stretch q) (h : p.Tracked) (ho : p.InOrder) (he : p.TasksExist) :
    q.Tracked := by
  cases hs with
  | submitted =>
    intro hr u r hu
    obtain hu | ⟨rfl, rfl⟩ := at_append rfl hu
    · rw [underWay, if_neg (by simpa using Nat.ne_of_gt hu.lt)]
      exact h hr u r hu
    · rw [underWay, if_pos rfl, he.underWay_eq_none (Nat.le_refl _)]
      exact Stage.carries_none rfl _
  | turned ht hturn => exact h.turn ho ht hturn
  | observed hown hl hc =>
    exact h.of_free ho hl (.of_events [_, _] (by simp [Happening.isAside])) rfl rfl
  | observedEmpty hown hl hc =>
    exact h.of_free ho hl (.of_events [_] (by simp [Happening.isAside])) rfl rfl
  | observedBusy => exact fun hr t s ht => h hr t s ht
  | dropped _ _ hd => exact h.dropping he hd
  | drifted | ticked | disowned => exact fun hr t s ht => h hr t s ht
  | halted => exact fun hr => absurd hr Bool.false_ne_true

theorem Attainable.tracked (h : p.Attainable) : p.Tracked :=
  h.induct (fun q hq _ t s ht => by simp [At, hq.tasks] at ht) fun _ _ hq hi hs =>
    hs.tracked hi hq.inOrder hq.tasksExist

section

variable {o : Operation}

/-- What is under way is so at a stage of that operation, and the slot is in the state found. -/
theorem Attainable.exists_stage (h : p.Attainable) (hr : p.running = true)
    (ho : underWay t p.history = some o) :
    ∃ s, p.At t s ∧ s.operation = some o.goal ∧ o.found = p.slot.state := by
  have hlt : t < p.tasks.length := by
    by_contra hge
    have hnone := h.tasksExist.underWay_eq_none (Nat.not_lt.mp hge)
    simp [hnone] at ho
  have hat : p.At t p.tasks[t] := List.getElem?_eq_getElem hlt
  obtain ⟨hgoal, hfound⟩ := h.tracked hr t _ hat
  rw [ho] at hgoal hfound
  exact ⟨_, hat, hgoal.symm, hfound o rfl⟩

/-- A task has an operation under way as long as it is at work under the lock. -/
theorem Attainable.underWay_eq_none_iff (h : p.Attainable) (hr : p.running = true) :
    underWay t p.history = none ↔ p.grip t ≠ .holding := by
  constructor
  · intro hnone hg
    have hne : p.view Stage.grip .off t ≠ .off := fun hoff => nomatch hg.symm.trans hoff
    obtain ⟨s, hs, -⟩ := exists_of_view hne
    have hgoal := (h.tracked hr t s hs).1
    rw [hnone] at hgoal
    exact Stage.operation_eq_none_iff.mp hgoal.symm (hs.grip.symm.trans hg)
  · intro hg
    cases ho : underWay t p.history with
    | none => rfl
    | some o =>
      obtain ⟨s, hs, hgoal, -⟩ := h.exists_stage hr ho
      rw [hs.grip] at hg
      simp [Stage.operation_eq_none_iff.mpr hg] at hgoal

end

end Proxy

end ResilientProxy
