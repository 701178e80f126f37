import Mathlib.Data.List.Forall2
import ResilientProxy.Proofs.Breakdown
import ResilientProxy.Proofs.Jobs
import ResilientProxy.Proofs.Simulated

/-!
# Detached calls

A detached call is a call on a task of its own, and what is done with its handle is nobody else's
business: who waits for it gets what the task ended with, and who lets go of it changes nothing.
-/

namespace ResilientProxy.Simulation

/-- What may happen around a proxy: its owner takes a step, its tasks run as far as they can, or any
move is made at all. -/
inductive Errand where
  | step (s : Step)
  | settle
  | move (m : Move)

/-- Whether this is about the handle that is kept under a label, or puts another one there. -/
def Errand.mentions (label : Label) : Errand → Bool
  | .step (.spawn l _) | .step (.detach l _ _ _) | .step (.pending l) | .step (.await l)
  | .step (.discard l) => l == label
  | _ => false

namespace Stand

def run (s : Stand) : Errand → Result × Stand
  | .step step => s.take step
  | .settle => (.nothing, s.setWorld s.world.settle)
  | .move m => (.nothing, s.move m)

/-- The results of errands one after the other, and the world after each. -/
def trail (s : Stand) : List Errand → List (Result × World)
  | [] => []
  | e :: es => ((s.run e).1, (s.run e).2.world) :: (s.run e).2.trail es

def runAll (s : Stand) (es : List Errand) : Stand := es.foldl (fun s e => (s.run e).2) s

theorem trail_append (s : Stand) (as bs : List Errand) :
    s.trail (as ++ bs) = s.trail as ++ (s.runAll as).trail bs := by
  induction as generalizing s with
  | nil => rfl
  | cons e as ih => rw [List.cons_append, trail, ih]; rfl

theorem length_trail (s : Stand) (es : List Errand) : (s.trail es).length = es.length := by
  induction es generalizing s with
  | nil => rfl
  | cons e es ih => rw [trail, List.length_cons, ih, List.length_cons]

/-- The handles play no part in what is done to a connection, or to the owner's reference. -/
theorem exists_setState (w : World) (number : Option Nat) (state : ConnState) :
    ∃ x w', Runs w.proxy w'.proxy ∧
      ∀ handles joinError,
        setState ⟨w, handles, joinError⟩ number state = (x, ⟨w', handles, joinError⟩) := by
  simp only [setState, proxy]
  cases number.getD w.proxy.connections.length with
  | zero => exact ⟨_, w, .refl _, fun _ _ => rfl⟩
  | succ conn =>
    by_cases hc : conn < w.proxy.connections.length
    · exact ⟨.flag true, { w with proxy := w.proxy.step (.drift conn state) }, .step _ _,
        fun _ _ => if_pos hc⟩
    · exact ⟨.flag false, w, .refl _, fun _ _ => if_neg hc⟩

theorem exists_drop (w : World) :
    ∃ x w', Runs w.proxy w'.proxy ∧
      ∀ handles joinError, drop ⟨w, handles, joinError⟩ = (x, ⟨w', handles, joinError⟩) := by
  by_cases ho : w.proxy.owned = true
  · let left : World := { w with proxy := w.proxy.step .disown }
    refine ⟨.flag true, ((List.range left.proxy.tasks.length).drop w.proxy.tasks.length).foldl
      World.wake left, ?_, fun _ _ => if_pos ho⟩
    rw [World.foldl_wake_proxy]
    exact .step _ .disown
  · exact ⟨.flag false, w, .refl _, fun _ _ => if_neg ho⟩

end Stand

/-- What waiting for the detached call `c` comes to, beside what it comes to as a task that its
owner has started; `reason` is what the runtime says of a task without an outcome of its own. -/
inductive Resolves (c : PendingCall) (reason : Outcome → String) : Result → Result → Prop where
  | called (result : Except ProxyError String) (time : Nat) :
    Resolves c reason (.resolved result) (.outcomeAt (.called result) time)
  | panicked (time : Nat) :
    Resolves c reason (.resolved (.error (.detached c.operation (reason .panicked))))
      (.outcomeAt .panicked time)
  /-- The task was not finished, and never will be. -/
  | vanished (time : Nat) :
    Resolves c reason (.resolved (.error (.detached c.operation (reason .vanished))))
      (.outcomeAt .vanished time)

/-- The same result, but for what only the kind of the handle of `c` accounts for. -/
inductive SameResult (c : PendingCall) (reason : Outcome → String) : Result → Result → Prop where
  | same (r : Result) : SameResult c reason r r
  | awaited {a b : Result} (h : Resolves c reason a b) : SameResult c reason a b
  | pending (finished : Bool) :
    SameResult c reason (.pending finished (some c.operation)) (.pending finished none)

/-- The same handle, or the two kinds of handle of one call. -/
inductive Twin (c : PendingCall) : Handle → Handle → Prop where
  | same (h : Handle) : Twin c h h
  | twin : Twin c (.detached c) (.spawned c.task)

/-- Two owners in the same world, of whom the one has detached the call that the other one has
started as a task. -/
structure Twins (c : PendingCall) (reason : Outcome → String) (s r : Stand) : Prop where
  world : s.world = r.world
  reason : s.joinError c.task = reason
  joinError : s.joinError = r.joinError
  handles : List.Forall₂ (fun a b => a.1 = b.1 ∧ Twin c a.2 b.2) s.handles r.handles
  reachable : s.proxy.Reachable
  submitted : ∃ time operation arenaSize text,
    ⟨time, some c.task, .submitted (.invoke operation arenaSize text)⟩ ∈ s.proxy.history

namespace Twins

variable {c : PendingCall} {reason : Outcome → String} {s r : Stand}

theorem proxy (h : Twins c reason s r) : s.proxy = r.proxy := congrArg World.proxy h.world

/-- The same is done to both worlds. -/
theorem move (h : Twins c reason s r) {w : World} (hw : Runs s.proxy w.proxy) :
    Twins c reason (s.setWorld w) (r.setWorld w) where
  world := rfl
  reason := h.reason
  joinError := h.joinError
  handles := h.handles
  reachable := hw.reachable h.reachable
  submitted := by
    obtain ⟨time, operation, arenaSize, text, hm⟩ := h.submitted
    obtain ⟨ms, hms⟩ := hw
    obtain ⟨-, new, hnew, -⟩ := (Proxy.run_stretches (p := s.proxy) ms).continues
    refine ⟨time, operation, arenaSize, text, ?_⟩
    change _ ∈ w.proxy.history
    rw [hms, hnew]
    exact List.mem_append_right _ hm

theorem forget (h : Twins c reason s r) (label : Label) :
    Twins c reason (s.forget label) (r.forget label) where
  world := h.world
  reason := h.reason
  joinError := h.joinError
  handles := by
    have hf := h.handles
    simp only [Stand.forget]
    generalize s.handles = as at hf ⊢
    generalize r.handles = bs at hf ⊢
    induction hf with
    | nil => exact .nil
    | @cons a b as bs hab _ ih =>
      rw [List.filter_cons, List.filter_cons, hab.1]
      split
      · exact .cons hab ih
      · exact ih
  reachable := h.reachable
  submitted := h.submitted

theorem keep (h : Twins c reason s r) (label : Label) {a b : Handle} (hab : Twin c a b) :
    Twins c reason (s.keep label a) (r.keep label b) :=
  { h.forget label with handles := .cons ⟨rfl, hab⟩ (h.forget label).handles }

theorem handle? (h : Twins c reason s r) (label : Label) :
    Option.Rel (Twin c) (s.handle? label) (r.handle? label) := by
  have hf := h.handles
  simp only [Stand.handle?]
  generalize s.handles = as at hf ⊢
  generalize r.handles = bs at hf ⊢
  induction hf with
  | nil => exact .none
  | @cons a b as bs hab _ ih =>
    rw [List.find?_cons, List.find?_cons, hab.1]
    split
    · exact .some hab.2
    · exact ih

/-- A call comes to an outcome of a call, or to none. -/
theorem resolved (h : Twins c reason s r) (time : Nat) :
    Resolves c reason (.resolved (c.resolve (s.joinError c.task) (s.outcomeOf c.task)))
      (.outcomeAt (s.outcomeOf c.task) time) := by
  obtain ⟨time', operation, arenaSize, text, hm⟩ := h.submitted
  simp only [Stand.outcomeOf, Proxy.outcome?, h.reason]
  split
  · rename_i o ht
    have hreach := h.reachable.attainable.mayReach ht hm
    cases o with
    | called result => exact .called result time
    | panicked => exact .panicked time
    | vanished => exact .vanished time
    | connected | tornDown => exact nomatch hreach
    | stopped => simp [Job.mayReach] at hreach
  · exact .vanished time

theorem await (h : Twins c reason s r) (label : Label) :
    SameResult c reason (s.await label).1 (r.await label).1 ∧
      Twins c reason (s.await label).2 (r.await label).2 := by
  have hhandle := h.handle? label
  obtain ⟨w, as, join⟩ := s
  obtain ⟨w', bs, join'⟩ := r
  obtain rfl : w = w' := h.world
  obtain rfl : join = join' := h.joinError
  have after (t : TaskId) := (h.move (World.runs_await w t)).forget label
  simp only [Stand.await]
  generalize Stand.handle? ⟨w, as, join⟩ label = a at hhandle ⊢
  generalize Stand.handle? ⟨w, bs, join⟩ label = b at hhandle ⊢
  cases hhandle with
  | none => exact ⟨.same _, h⟩
  | @some a b hab =>
    cases hab with
    | same =>
      cases a with
      | spawned t => exact ⟨.same _, after t⟩
      | detached d => exact ⟨.same _, after d.task⟩
    | twin => exact ⟨.awaited ((after c.task).resolved _), after c.task⟩

theorem withProxy (h : Twins c reason s r) {act act' : Stand → Result × Stand}
    (hact : SameResult c reason (act s).1 (act' r).1 ∧ Twins c reason (act s).2 (act' r).2) :
    SameResult c reason (s.withProxy act).1 (r.withProxy act').1 ∧
      Twins c reason (s.withProxy act).2 (r.withProxy act').2 := by
  simp only [Stand.withProxy, h.proxy]
  split
  · exact hact
  · exact ⟨.same _, h⟩

theorem take (h : Twins c reason s r) (step : Step) :
    SameResult c reason (s.take step).1 (r.take step).1 ∧
      Twins c reason (s.take step).2 (r.take step).2 := by
  have hhandle (label : Label) := h.handle? label
  obtain ⟨w, as, join⟩ := s
  obtain ⟨w', bs, join'⟩ := r
  obtain rfl : w = w' := h.world
  obtain rfl : join = join' := h.joinError
  cases step with
  | perform request =>
    simp only [Stand.take]
    exact h.withProxy ⟨.same _, h.move (World.runs_runJob _ _)⟩
  | state =>
    simp only [Stand.take]
    exact h.withProxy ⟨.same _, h.move (.step _ _)⟩
  | describe | info =>
    simp only [Stand.take]
    exact h.withProxy ⟨.same _, h⟩
  | extend => exact ⟨.same _, h.move (.refl _)⟩
  | setState number state =>
    obtain ⟨x, w', hw, hset⟩ := Stand.exists_setState w number state
    simp only [Stand.take, hset]
    exact ⟨.same _, h.move hw⟩
  | sleep => exact ⟨.same _, h.move (World.runs_sleep _ _)⟩
  | spawn label =>
    simp only [Stand.take]
    exact h.withProxy ⟨.same _, (h.move (World.runs_spawn _ _)).keep label (.same _)⟩
  | detach label =>
    simp only [Stand.take]
    exact h.withProxy ⟨.same _, (h.move (World.runs_spawn _ _)).keep label (.same _)⟩
  | pending label =>
    have hl := hhandle label
    simp only [Stand.take]
    generalize Stand.handle? ⟨w, as, join⟩ label = a at hl ⊢
    generalize Stand.handle? ⟨w, bs, join⟩ label = b at hl ⊢
    cases hl with
    | none => exact ⟨.same _, h⟩
    | some hab =>
      cases hab with
      | same => exact ⟨.same _, h⟩
      | twin => exact ⟨.pending _, h⟩
  | await label => exact h.await label
  | discard label =>
    have hl := hhandle label
    simp only [Stand.take]
    generalize Stand.handle? ⟨w, as, join⟩ label = a at hl ⊢
    generalize Stand.handle? ⟨w, bs, join⟩ label = b at hl ⊢
    cases hl <;> exact ⟨.same _, h.forget label⟩
  | drop =>
    obtain ⟨x, w', hw, hdrop⟩ := Stand.exists_drop w
    simp only [Stand.take, hdrop]
    exact ⟨.same _, h.move hw⟩

theorem run (h : Twins c reason s r) (e : Errand) :
    SameResult c reason (s.run e).1 (r.run e).1 ∧ Twins c reason (s.run e).2 (r.run e).2 := by
  cases e with
  | step step => exact h.take step
  | settle =>
    simp only [Stand.run, ← h.world]
    exact ⟨.same _, h.move (World.runs_settle _)⟩
  | move m =>
    simp only [Stand.run, Stand.move, ← h.world, ← h.proxy]
    exact ⟨.same _, h.move (.step _ m)⟩

theorem trail (h : Twins c reason s r) (es : List Errand) :
    List.Forall₂ (fun a b => a.2 = b.2 ∧ SameResult c reason a.1 b.1) (s.trail es)
      (r.trail es) := by
  induction es generalizing s r with
  | nil => exact .nil
  | cons e es ih => exact .cons ⟨(h.run e).2.world, (h.run e).1⟩ (ih (h.run e).2)

theorem runAll (h : Twins c reason s r) (es : List Errand) :
    Twins c reason (s.runAll es) (r.runAll es) := by
  induction es generalizing s r with
  | nil => exact h
  | cons e es ih => exact ih (h.run e).2

/-- Each owner waits by the handle that it has kept. -/
theorem resolves (h : Twins c reason s r) {label : Label}
    (hs : s.handle? label = some (.detached c)) (hr : r.handle? label = some (.spawned c.task)) :
    Resolves c reason (s.await label).1 (r.await label).1 := by
  obtain ⟨w, as, join⟩ := s
  obtain ⟨w', bs, join'⟩ := r
  obtain rfl : w = w' := h.world
  obtain rfl : join = join' := h.joinError
  simp only [Stand.await, hs, hr]
  exact ((h.move (World.runs_await w c.task)).forget label).resolved _

end Twins

namespace Stand

variable {s : Stand} {label : Label}

/-- Where the owner detaches a call or starts it as a task, the proxy is told the same. -/
theorem twins_of_submit (hs : s.proxy.Reachable) (ho : s.proxy.owned = true)
    (hr : s.proxy.running = true) (label : Label) (operation text : String) (arenaSize : Nat) :
    Twins ⟨operation, s.proxy.tasks.length⟩ (s.joinError s.proxy.tasks.length)
      (s.take (.detach label operation arenaSize text)).2
      (s.take (.spawn label (.invoke operation (some arenaSize) text))).2 := by
  simp only [take, withProxy, ho, if_true]
  have hruns := World.runs_spawn s.world (.invoke operation arenaSize text)
  refine ⟨rfl, rfl, rfl, .cons ⟨rfl, .twin⟩ (List.forall₂_same.mpr fun _ _ => ⟨rfl, .same _⟩),
    hruns.reachable hs, s.proxy.now, operation, arenaSize, text, ?_⟩
  have hstep : (s.world.spawn (.invoke operation arenaSize text)).proxy =
      (s.proxy.apply (.submit (.invoke operation arenaSize text))).reap := by
    rw [World.spawn, World.wake_proxy]
    rfl
  have hat : (s.proxy.apply (.submit (.invoke operation arenaSize text))).At s.proxy.tasks.length
      (.queued (.invoke operation arenaSize text)) := by
    simp [Proxy.apply, Proxy.submit, ho, hr, Proxy.At, Proxy.record]
  change _ ∈ (s.world.spawn (.invoke operation arenaSize text)).proxy.history
  rw [hstep, Proxy.reap_of_keepsProxy hat rfl]
  simp [Proxy.apply, Proxy.submit, ho, hr, Proxy.record]

theorem forget_comm (s : Stand) (label label' : Label) :
    (s.forget label).forget label' = (s.forget label').forget label := by
  simp only [forget, List.filter_filter, Bool.and_comm]

theorem handle?_forget {label' : Label} (h : label' ≠ label) :
    (s.forget label).handle? label' = s.handle? label' := by
  have hfind : (s.handles.filter (·.1 != label)).find? (·.1 == label') =
      s.handles.find? (·.1 == label') := by
    rw [List.find?_filter]
    congr 1
    funext x
    by_cases hx : x.1 = label' <;> simp [hx, h]
  simp only [handle?, forget, hfind]

theorem forget_keep (s : Stand) {label label' : Label} (h : label' ≠ label) (handle : Handle) :
    (s.forget label).keep label' handle = (s.keep label' handle).forget label := by
  simp [keep, forget, h, List.filter_filter, Bool.and_comm]

theorem handle?_keep {label' : Label} (h : label' ≠ label) (handle : Handle) :
    (s.keep label' handle).handle? label = s.handle? label := by
  rw [← handle?_forget (s := s) h.symm]
  simp [keep, handle?, h]

theorem withProxy_forget {act : Stand → Result × Stand}
    (h : act (s.forget label) = ((act s).1, (act s).2.forget label)) :
    (s.forget label).withProxy act = ((s.withProxy act).1, (s.withProxy act).2.forget label) := by
  by_cases ho : s.proxy.owned = true
  · have ho' : (s.forget label).proxy.owned = true := ho
    simp only [Stand.withProxy, if_pos ho, if_pos ho']
    exact h
  · have ho' : ¬ (s.forget label).proxy.owned = true := ho
    simp only [Stand.withProxy, if_neg ho, if_neg ho']

/-- Without the handle the same is done, and the handle is still missing afterwards. -/
theorem take_forget {step : Step} (h : (Errand.step step).mentions label = false) :
    (s.forget label).take step = ((s.take step).1, (s.take step).2.forget label) := by
  have hne {label' : Label} (hl : (label' == label) = false) : label' ≠ label := by simpa using hl
  cases step with
  | perform | state | describe | info =>
    simp only [take]
    refine withProxy_forget ?_
    rfl
  | extend | sleep => rfl
  | setState number state =>
    obtain ⟨w, handles, join⟩ := s
    obtain ⟨x, w', -, hset⟩ := exists_setState w number state
    simp only [take, forget, hset]
  | drop =>
    obtain ⟨w, handles, join⟩ := s
    obtain ⟨x, w', -, hdrop⟩ := exists_drop w
    simp only [take, forget, hdrop]
  | spawn label' request =>
    simp only [take]
    refine withProxy_forget ?_
    exact congrArg (Prod.mk _)
      (forget_keep (s.setWorld (s.world.spawn (request.job s.proxy.config))) (hne h) _)
  | detach label' operation arenaSize text =>
    simp only [take]
    refine withProxy_forget ?_
    exact congrArg (Prod.mk _)
      (forget_keep (s.setWorld (s.world.spawn (.invoke operation arenaSize text))) (hne h) _)
  | pending label' =>
    simp only [take, handle?_forget (hne h)]
    cases s.handle? label' <;> rfl
  | await label' =>
    simp only [take, await, handle?_forget (hne h)]
    cases s.handle? label' with
    | none => rfl
    | some handle =>
      have hafter : ((s.forget label).setWorld
          ((s.forget label).world.await handle.task)).forget label' =
          ((s.setWorld (s.world.await handle.task)).forget label').forget label :=
        forget_comm (s.setWorld (s.world.await handle.task)) label label'
      simp only [hafter]
      cases handle <;> rfl
  | discard label' =>
    simp only [take, handle?_forget (hne h)]
    rw [forget_comm]

theorem run_forget {e : Errand} (h : e.mentions label = false) :
    (s.forget label).run e = ((s.run e).1, (s.run e).2.forget label) := by
  cases e with
  | step => exact take_forget h
  | settle | move => rfl

/-- A handle that nobody asks about makes no difference. -/
theorem trail_forget (es : List Errand) (h : ∀ e ∈ es, e.mentions label = false) :
    (s.forget label).trail es = s.trail es := by
  induction es generalizing s with
  | nil => rfl
  | cons e es ih =>
    obtain ⟨he, hes⟩ := List.forall_mem_cons.mp h
    rw [trail, trail, run_forget he, ih hes]
    rfl

/-- A handle is kept as long as nobody asks about it. -/
theorem handle?_run {e : Errand} (h : e.mentions label = false) :
    (s.run e).2.handle? label = s.handle? label := by
  have hne {label' : Label} (hl : (label' == label) = false) : label' ≠ label := by simpa using hl
  cases e with
  | settle | move => rfl
  | step step =>
    simp only [Stand.run]
    cases step with
    | perform | state | describe | info =>
      simp only [take, withProxy]
      split <;> rfl
    | extend | sleep => rfl
    | setState number state =>
      obtain ⟨w, handles, join⟩ := s
      obtain ⟨x, w', -, hset⟩ := exists_setState w number state
      simp only [take, hset, handle?]
    | drop =>
      obtain ⟨w, handles, join⟩ := s
      obtain ⟨x, w', -, hdrop⟩ := exists_drop w
      simp only [take, hdrop, handle?]
    | spawn | detach =>
      simp only [take, withProxy]
      split
      · exact handle?_keep (hne h) _
      · rfl
    | pending label' =>
      simp only [take]
      cases s.handle? label' <;> rfl
    | await label' =>
      simp only [take, await]
      cases s.handle? label' with
      | none => rfl
      | some handle => cases handle <;> exact handle?_forget (hne h).symm
    | discard label' => exact handle?_forget (hne h).symm

theorem handle?_runAll {es : List Errand} (h : ∀ e ∈ es, e.mentions label = false) :
    (s.runAll es).handle? label = s.handle? label := by
  induction es generalizing s with
  | nil => rfl
  | cons e es ih =>
    obtain ⟨he, hes⟩ := List.forall_mem_cons.mp h
    exact (ih hes).trans (handle?_run he)

end Stand

open Proxy in
/-- A detached call is a call whose handle nobody needs.

Whether its owner detaches a call or starts it as a task, the same happens in the world, all other
results are the same, and who waits for the call gets the same outcome, except that a call whose
task broke down has its label instead. An attempt that breaks down leaves the slot, the published
state, the lock and the hold flag as they are when it is still out, and every run goes on as if it
never returned. If a handle is discarded that nobody asks about any more, nothing else changes. -/
theorem detached_call_is_a_call :
    (∀ (s : Stand) (label : Label) (operation text : String) (arenaSize : Nat),
      s.proxy.Reachable → s.proxy.owned = true → s.proxy.running = true →
      let c : PendingCall := ⟨operation, s.proxy.tasks.length⟩
      let detached := (s.take (.detach label operation arenaSize text)).2
      let started := (s.take (.spawn label (.invoke operation (some arenaSize) text))).2
      detached.world = started.world ∧ ∀ es : List Errand,
        List.Forall₂ (fun a b => a.2 = b.2 ∧ SameResult c (s.joinError c.task) a.1 b.1)
          (detached.trail es) (started.trail es) ∧
        ((∀ e ∈ es, e.mentions label = false) →
          Resolves c (s.joinError c.task) ((detached.runAll es).await label).1
            ((started.runAll es).await label).1)) ∧
    (∀ (p a b : Proxy) (t : TaskId) (ms : List Move), p.Attainable → p.BreaksDown t a b →
      (a.slot = b.slot ∧ a.published = b.published ∧ a.lock = b.lock ∧ a.hold = b.hold) ∧
      ((∀ m ∈ ms, m.task? ≠ some t) →
        ((a.reap.run ms).dropped = false → (a.reap.run ms).Agree (.apart t) (b.run ms)) ∧
        ∀ u ≠ t, (a.reap.run ms).Submitted u ∨ (b.run ms).Submitted u →
          (a.reap.run ms).tasks[u]? = (b.run ms).tasks[u]? ∧
            (a.reap.run ms).eventsOf u = (b.run ms).eventsOf u)) ∧
    ∀ (s : Stand) (label : Label) (as bs : List Errand), (∀ e ∈ bs, e.mentions label = false) →
      (s.trail (as ++ .step (.discard label) :: bs)).eraseIdx as.length = s.trail (as ++ bs) := by
  refine ⟨?_, ?_, ?_⟩
  · intro s label operation text arenaSize hs ho hr c detached started
    have htwins : Twins c (s.joinError c.task) detached started :=
      Stand.twins_of_submit hs ho hr label operation text arenaSize
    refine ⟨htwins.world, fun es => ⟨htwins.trail es, fun hes => ?_⟩⟩
    refine (htwins.runAll es).resolves ?_ ?_
    · rw [Stand.handle?_runAll hes]
      simp [detached, Stand.take, Stand.withProxy, ho, Stand.handle?, Stand.keep, c]
    · rw [Stand.handle?_runAll hes]
      simp [started, Stand.take, Stand.withProxy, ho, Stand.handle?, Stand.keep, c]
  · intro p a b t ms ha hb
    have hsame := hb.agree
    have hstate := hsame.state rfl
    refine ⟨⟨?_, hsame.published rfl, hsame.lock, hsame.hold rfl⟩, fun hms => hb.unnoticed ha hms⟩
    rw [show a.slot = ⟨a.slot.handle, a.slot.state⟩ from rfl, hsame.handle, hstate]
  · intro s label as bs hbs
    rw [Stand.trail_append, Stand.trail_append, List.eraseIdx_append_of_length_le]
    · simp [Stand.trail, Stand.length_trail, Stand.run, Stand.take, Stand.trail_forget bs hbs]
    · rw [Stand.length_trail]

open Proxy in
/-- The channel brings the attempt of a detached call down. Who waits for it gets its label, who
connects at the same time notices nothing, and letting go of the call changes nothing. -/
theorem detached_call_that_breaks_down :
    let script : Script := { Script.empty with invoke := [{ Entry.plain with panics := true }] }
    let s : Stand :=
      (Stand.take ⟨.ofProxy (ofDefaults ⟨"svc", by decide⟩ []) script, [], joinError⟩
        (.perform .connect)).2
    let detached := (s.take (.detach 7 "a" 8 "x")).2
    let started := (s.take (.spawn 7 (.invoke "a" (some 8) "x"))).2
    let p := s.proxy.run [.submit (.invoke "a" 8 "x"), .resume 1 .turn]
    let a := p.resumeAt 1 (.attempting ⟨"a", 8, "x", .start 5⟩ 0 (.acquire 8) none)
      (.reply .panicked)
    let ms : List Move := [.submit .connect, .resume 2 .turn]
    let left : List Errand := [.settle, .step .drop]
    (detached.world = started.world ∧
      Resolves ⟨"a", s.proxy.tasks.length⟩ (joinError 1) (detached.await 7).1
        (started.await 7).1 ∧
      (detached.await 7).2.outcomeOf 1 = .panicked) ∧
    ((a.reap.run ms).tasks[2]? = (p.run ms).tasks[2]? ∧
      (p.run ms).outcome? 2 = some (.connected (.ok .alreadyOpen))) ∧
    (detached.trail (.step (.discard 7) :: left)).eraseIdx 0 = detached.trail left ∧
      (detached.runAll left).proxy.dropped = true := by
  intro script s detached started p a ms left
  have hstart : create ⟨"svc", by decide⟩ .default [] .unbounded =
      .ok (ofDefaults ⟨"svc", by decide⟩ []) := rfl
  have hs : s.proxy.Reachable :=
    (Stand.runs_take _ _).reachable ⟨_, _, _, _, _, [], hstart, rfl⟩
  obtain ⟨hcall, hbreak, hdiscard⟩ := detached_call_is_a_call
  obtain ⟨hworld, hsame⟩ := hcall s 7 "a" "x" 8 hs (by decide +kernel) (by decide +kernel)
  have hp : p.Attainable := (hs.run _).attainable
  have hb : p.BreaksDown 1 a p := .replied (by decide +kernel)
  obtain ⟨-, hrun⟩ := hbreak p a p 1 ms hp hb
  obtain ⟨-, hother⟩ := hrun (by decide)
  refine ⟨⟨hworld, ?_, ?_⟩, ⟨?_, ?_⟩, ?_, ?_⟩
  · exact (hsame []).2 (by simp)
  · decide +kernel
  · exact (hother 2 (by decide) (.inr ⟨0, .connect, by decide +kernel⟩)).1
  · decide +kernel
  · exact hdiscard detached 7 [] left (by simp [left, Errand.mentions])
  · decide +kernel

end ResilientProxy.Simulation
