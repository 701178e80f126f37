import ResilientProxy.Proofs.Chain
import ResilientProxy.Simulation.Scenario

/-!
# Simulations are runs

What a simulated world does to its proxy is always some list of moves, so what holds of all runs
holds of every simulation.
-/

namespace ResilientProxy.Simulation

/-- A run leads from the one proxy to the other. -/
def Runs (p q : Proxy) : Prop := ∃ ms, q = p.run ms

namespace Runs

variable {p q r : Proxy}

theorem refl (p : Proxy) : Runs p p := ⟨[], rfl⟩

theorem trans (h : Runs p q) (h' : Runs q r) : Runs p r := by
  obtain ⟨ms, rfl⟩ := h
  obtain ⟨ms', rfl⟩ := h'
  exact ⟨ms ++ ms', (Proxy.run_append ..).symm⟩

theorem step (p : Proxy) (m : Move) : Runs p (p.step m) := ⟨[m], rfl⟩

theorem reachable (h : Runs p q) (hp : p.Reachable) : q.Reachable := by
  obtain ⟨ms, rfl⟩ := h
  exact hp.run ms

end Runs

namespace World

@[simp] theorem wake_proxy (w : World) (t : TaskId) : (w.wake t).proxy = w.proxy := by
  simp only [wake]
  repeat' split
  all_goals rfl

@[simp] theorem foldl_wake_proxy (ts : List TaskId) (w : World) :
    (ts.foldl wake w).proxy = w.proxy := by
  induction ts generalizing w with
  | nil => rfl
  | cons t ts ih => rw [List.foldl_cons, ih, wake_proxy]

@[simp] theorem arm_proxy (w : World) (t : TaskId) : (w.arm t).proxy = w.proxy := by
  simp only [arm]
  repeat' split
  all_goals rfl

@[simp] theorem wakeOwner_proxy (w : World) : w.wakeOwner.proxy = w.proxy := by
  simp only [wakeOwner]
  repeat' split
  all_goals simp

theorem runs_spawn (w : World) (job : Job) : Runs w.proxy (w.spawn job).proxy := by
  rw [spawn, wake_proxy]
  exact .step _ _

theorem runs_perform (w : World) (t : TaskId) (moves : List Move) :
    Runs w.proxy (w.perform t moves).proxy := by
  simp only [perform, foldl_wake_proxy, wakeOwner_proxy, arm_proxy]
  exact ⟨moves, rfl⟩

theorem runs_runTask (t : TaskId) (n : Nat) (w : World) : Runs w.proxy (runTask t n w).proxy := by
  induction n generalizing w with
  | zero => exact .refl _
  | succ n ih =>
    simp only [runTask]
    split
    · exact .refl _
    · exact (w.runs_perform t _).trans (ih _)

theorem runs_turnFront {w w' : World} (h : w.turnFront = some w') : Runs w.proxy w'.proxy := by
  simp only [turnFront] at h
  split at h
  · obtain rfl := Option.some.inj h
    exact runs_runTask _ _ _
  · exact nomatch h

theorem runs_turn {w w' : World} (h : w.turn = some w') : Runs w.proxy w'.proxy := by
  simp only [turn] at h
  split at h
  · exact runs_turnFront h
  · obtain rfl := Option.some.inj h
    exact runs_runTask _ _ _

theorem runs_jump {w w' : World} (h : w.jump = some w') : Runs w.proxy w'.proxy := by
  simp only [jump] at h
  split at h
  · exact nomatch h
  · obtain rfl := Option.some.inj h
    have foldl (due : List Timer) (w : World) :
        (due.foldl (fun w timer => w.wake timer.task) w).proxy = w.proxy := by
      induction due generalizing w with
      | nil => rfl
      | cons timer due ih => rw [List.foldl_cons, ih, wake_proxy]
    cases hf : turnFront _ with
    | none =>
      rw [Option.getD_none, foldl]
      exact .step _ _
    | some w' =>
      have hrun := runs_turnFront hf
      rw [foldl] at hrun
      exact (Runs.step _ _).trans hrun

theorem runs_settleWithin (n : Nat) (w : World) : Runs w.proxy (settleWithin n w).proxy := by
  induction n generalizing w with
  | zero => exact .refl _
  | succ n ih =>
    simp only [settleWithin]
    split
    · exact .refl _
    · exact (runs_turn ‹_›).trans (ih _)

theorem runs_settle (w : World) : Runs w.proxy w.settle.proxy := runs_settleWithin _ w

theorem runs_awaitWithin (t : TaskId) (n : Nat) (w : World) :
    Runs w.proxy (awaitWithin t n w).proxy := by
  induction n generalizing w with
  | zero => exact .refl _
  | succ n ih =>
    simp only [awaitWithin]
    split
    · exact .refl _
    · split
      · exact (runs_turn ‹_›).trans (ih _)
      · split
        · exact (runs_jump ‹_›).trans (ih _)
        · exact .refl _

theorem runs_await (w : World) (t : TaskId) : Runs w.proxy (w.await t).proxy :=
  runs_awaitWithin t _ w

theorem runs_sleepWithin (moment n : Nat) (w : World) :
    Runs w.proxy (sleepWithin moment n w).proxy := by
  induction n generalizing w with
  | zero => exact .refl _
  | succ n ih =>
    refine w.runs_settle.trans ?_
    simp only [sleepWithin]
    split
    · split
      · split
        · exact (runs_jump ‹_›).trans (ih _)
        · exact .refl _
      · exact .step _ _
    · exact .step _ _

theorem runs_sleep (w : World) (ms : Nat) : Runs w.proxy (w.sleep ms).proxy :=
  runs_sleepWithin _ _ w

theorem runs_runJob (w : World) (job : Job) : Runs w.proxy (w.runJob job).proxy :=
  (Runs.step w.proxy (.submit job)).trans ((runs_runTask _ _ _).trans (runs_await _ _))

end World

namespace Stand

variable (s : Stand)

theorem runs_withProxy {act : Stand → Result × Stand}
    (h : Runs s.proxy (act s).2.proxy) : Runs s.proxy (s.withProxy act).2.proxy := by
  simp only [withProxy]
  split
  · exact h
  · exact .refl _

theorem runs_move (m : Move) : Runs s.proxy (s.move m).proxy := .step _ m

theorem runs_drop : Runs s.proxy s.drop.2.proxy := by
  simp only [drop]
  split
  · simp only [proxy, setWorld, World.foldl_wake_proxy]
    exact .step _ _
  · exact .refl _

theorem runs_setState (number : Option Nat) (state : ConnState) :
    Runs s.proxy (s.setState number state).2.proxy := by
  simp only [setState]
  split
  · exact .refl _
  · split
    · exact .step _ _
    · exact .refl _

theorem runs_awaitHandle (label : Label) : Runs s.proxy (s.await label).2.proxy := by
  simp only [await]
  split
  · exact .refl _
  · split <;> exact World.runs_await _ _

/-- Every step of a scenario is a run of its proxy. -/
theorem runs_take (step : Step) : Runs s.proxy (s.take step).2.proxy := by
  cases step with
  | perform =>
    simp only [take]
    exact s.runs_withProxy (World.runs_runJob _ _)
  | state =>
    simp only [take]
    exact s.runs_withProxy (s.runs_move .observe)
  | describe | info =>
    simp only [take]
    exact s.runs_withProxy (.refl _)
  | extend | pending | discard =>
    simp only [take]
    first
      | exact .refl _
      | split <;> exact .refl _
  | setState number state => exact s.runs_setState number state
  | sleep ms => exact World.runs_sleep _ ms
  | spawn | detach =>
    simp only [take]
    exact s.runs_withProxy (World.runs_spawn _ _)
  | await label => exact s.runs_awaitHandle label
  | drop => exact s.runs_drop

end Stand

end ResilientProxy.Simulation
