import ResilientProxy.Proofs.OpenLoop
import ResilientProxy.Proofs.Published
import ResilientProxy.Proofs.TakenDown

/-!
# Operations from their first turn to their last

An operation on the connection is followed from the turn in which its task gets the lock for it to
the turn in which the task gives the lock back, whatever others do meanwhile. Nobody else touches
the slot, so what the first turn establishes and every later one preserves holds at all moments of
the operation. After it, the slot keeps its connection until the next operation begins.
-/

namespace ResilientProxy

/-- What a task at this stage has the lock for, or wants it for. -/
def Stage.aim : Stage → Option Goal
  | .awaitingLock goal => some goal
  | s => s.operation

theorem Stage.aim_eq_none_iff {s : Stage} : s.aim = none ↔ s.grip = .off := by
  cases s <;> simp [aim, operation, grip]

theorem Stage.aim_of_grip {s : Stage} (h : s.grip = .holding) : s.aim = s.operation := by
  cases s <;> first | rfl | exact nomatch h

namespace Proxy

variable {p q r m : Proxy} {t u : TaskId} {goal goal' : Goal} {s s' : Stage}
  {ws es : List Happening}

/-- Task `t` got the lock for `goal` when the proxy was `q`. Since then, up to the moment at which
the proxy is as given and the task stands at stage `s`, `ws` has happened in it, in order, and the
lock has not been given back before the last turn. -/
inductive Operates (q : Proxy) (t : TaskId) (goal : Goal) :
    Proxy → Stage → List Happening → Prop where
  | begins {r : Proxy} {s : Stage} {es : List Happening} (h : q.Attainable)
      (ht : q.At t (.awaitingLock goal))
      (hturn : q.Turn t (.awaitingLock goal) s (es ++ [.lockTaken goal]) r) :
    Operates q t goal (r.goOn t s (es ++ [.lockTaken goal])) s es.reverse
  /-- Something happens outside of the task. -/
  | waits {p p' : Proxy} {s : Stage} {ws : List Happening} (h : Operates q t goal p s ws)
      (hg : s.grip = .holding) (hs : p.Stretch p') (hat : p'.At t s)
      (hsame : p'.eventsOf t = p.eventsOf t) : Operates q t goal p' s ws
  | goesOn {p r : Proxy} {s s' : Stage} {ws es : List Happening} (h : Operates q t goal p s ws)
      (hg : s.grip = .holding) (hturn : p.Turn t s s' es r) :
    Operates q t goal (r.goOn t s' es) s' (ws ++ es.reverse)

theorem happeningsOf_eq (t : TaskId) (p : Proxy) :
    happeningsOf t p.history = ((p.eventsOf t).map (·.what)).reverse := rfl

theorem happeningsOf_turn (hf : p.Frame q) :
    happeningsOf t (q.goOn t s es).history = happeningsOf t p.history ++ es.reverse := by
  rw [happeningsOf_eq, happeningsOf_eq, eventsOf_turn hf]
  simp [Function.comp_def]

theorem Turn.getLast? (h : p.Turn t (.awaitingLock goal) s es q) :
    es.getLast? = some (.lockTaken goal) := by
  generalize hs : Stage.awaitingLock goal = s₀ at h
  cases h with
  | foundOpen | foundFaulted | foundClosed | foundEmpty | abortStarted | attemptedEmpty
  | arenaRefused | attemptSent =>
    cases hs
    simp
  | @closeStarted stop | @stoppedClosed stop | @stoppedEmpty stop =>
    cases stop <;>
    · cases hs
      simp
  | _ => cases hs

/-- Taking the lock is what a turn of those in line begins with. -/
theorem Turn.begins (h : p.Turn t (.awaitingLock goal) s es q) :
    ∃ es', es = es' ++ [.lockTaken goal] :=
  List.getLast?_eq_some_iff.mp h.getLast?

theorem Turn.operation (h : p.Turn t s s' es q) (hs : s.aim = some goal)
    (hg : s'.grip = .holding) : s'.operation = some goal := by
  cases h with
  | foundOpen _ _ _ hx | connected _ hx | replaced _ _ hx | connectFailed _ hx =>
    cases hx <;> cases hg
  | @closeStarted stop => cases stop <;> exact hs
  | foundFaulted | foundClosed | foundEmpty | abortStarted | connectedOver | connectPaused
  | connectBackedOff | connectAgain | aborted => exact hs
  | _ => cases hg

namespace Operates

theorem attainable (h : q.Operates t goal p s ws) : p.Attainable ∧ p.At t s := by
  induction h with
  | begins h ht hturn => exact ⟨h.stretch (.turned ht hturn), ht.goOn hturn.frame.tasks⟩
  | waits _ _ hs hat _ ih => exact ⟨ih.1.stretch hs, hat⟩
  | goesOn _ _ hturn ih =>
    exact ⟨ih.1.stretch (.turned ih.2 hturn), ih.2.goOn hturn.frame.tasks⟩

theorem stretches (h : q.Operates t goal p s ws) : q.Stretches p := by
  induction h with
  | begins _ ht hturn => exact .single (.turned ht hturn)
  | waits _ _ hs _ _ ih => exact ih.tail hs
  | goesOn h _ hturn ih => exact ih.tail (.turned h.attainable.2 hturn)

theorem start (h : q.Operates t goal p s ws) :
    q.Attainable ∧ q.At t (.awaitingLock goal) ∧ q.lock.owner = some t := by
  induction h with
  | begins h ht hturn => exact ⟨h, ht, hturn.of_lockTaken.2.1⟩
  | waits _ _ _ _ _ ih | goesOn _ _ _ ih => exact ih

/-- While the operation is under way, the stage tells its goal. -/
theorem operation (h : q.Operates t goal p s ws) (hg : s.grip = .holding) :
    s.operation = some goal := by
  induction h with
  | begins _ _ hturn => exact hturn.operation rfl hg
  | waits _ hg _ _ _ ih => exact ih hg
  | goesOn _ hg' hturn ih => exact hturn.operation ((Stage.aim_of_grip hg').trans (ih hg')) hg

/-- What happened in the task is what happened in it before the operation, and since then. -/
theorem happenings (h : q.Operates t goal p s ws) :
    happeningsOf t p.history = happeningsOf t q.history ++ .lockTaken goal :: ws := by
  induction h with
  | begins _ _ hturn =>
    rw [happeningsOf_turn hturn.frame, List.reverse_append]
    rfl
  | waits _ _ _ _ hsame ih =>
    rw [happeningsOf_eq, hsame, ← happeningsOf_eq, ih]
  | goesOn _ _ hturn ih =>
    rw [happeningsOf_turn hturn.frame, ih, List.append_assoc, List.cons_append]

/-- Nothing that others do while the task waits touches the slot. -/
theorem slot_eq (h : q.Operates t goal p s ws) (hg : s.grip = .holding) (hs : p.Stretch r)
    (hat : r.At t s) (hsame : r.eventsOf t = p.eventsOf t) : r.slot = p.slot := by
  obtain ⟨ha, ht⟩ := h.attainable
  obtain hslot | ⟨r', s', es, hturn, rfl⟩ | hend := hs.slot_eq ha.inOrder ht hg
  · exact hslot
  · obtain rfl := hat.unique (ht.goOn hturn.frame.tasks)
    have hnil : es.map (⟨p.now, some t, ·⟩ : Happening → Event) = [] := by
      simpa [eventsOf_turn hturn.frame] using hsame
    exact absurd hg (hturn.grip_of_nil (List.map_eq_nil_iff.mp hnil))
  · exact absurd (grip_of_keepsProxy (keepsProxy_of_isFinished (hend t s hat))) (by simp [hg])

/-- What the first turn establishes and every later one preserves, of the slot, of the stage and of
what happened, holds at all moments. -/
theorem induct {I : Slot → Stage → List Happening → Prop} (h : q.Operates t goal p s ws)
    (begins : ∀ r s es, q.Turn t (.awaitingLock goal) s (es ++ [.lockTaken goal]) r →
      I r.slot s es.reverse)
    (goesOn : ∀ p r s s' ws es, q.Operates t goal p s ws → I p.slot s ws → s.grip = .holding →
      p.Turn t s s' es r → I r.slot s' (ws ++ es.reverse)) : I p.slot s ws := by
  induction h with
  | @begins r s es _ _ hturn => exact begins r s es hturn
  | waits h hg hs hat hsame ih =>
    rw [h.slot_eq hg hs hat hsame]
    exact ih
  | @goesOn p r s s' ws es h hg hturn ih => exact goesOn p r s s' ws es h ih hg hturn

theorem config (h : q.Operates t goal p s ws) : p.config = q.config := h.stretches.config

theorem address (h : q.Operates t goal p s ws) : p.address = q.address := h.stretches.address

theorem published (h : q.Operates t goal p s ws) : p.publishedState = p.slot.state :=
  publishedState_eq h.attainable.1.published

end Operates

/-! ## Every moment under the lock is one of an operation -/

/-- Nobody off the lock is at work under it after one turn. -/
theorem Turn.grip_of_off (h : p.Turn t s s' es q) (hs : s.grip = .off) : s'.grip ≠ .holding := by
  have hlock := h.lockTurn
  rw [hs] at hlock
  generalize p.lock = l, q.lock = l', s'.grip = g at hlock
  cases hlock <;> nofun

/-- A task that is new has nothing to do with the lock. -/
theorem Stretch.lt_of_grip (h : p.Stretch q) (ht : q.At t s) (hg : s.grip ≠ .off) :
    t < p.tasks.length := by
  cases h with
  | submitted =>
    obtain ht | ⟨-, rfl⟩ := at_append rfl ht
    · exact ht.lt
    · exact absurd rfl hg
  | turned _ hturn => simpa [hturn.frame.tasks] using ht.lt
  | dropped _ _ hdrop =>
    cases hdrop with
    | running =>
      obtain ht | ⟨-, rfl⟩ := at_append rfl ht
      · exact ht.lt
      · exact absurd rfl hg
    | _ => exact ht.lt
  | halted =>
    exact absurd (grip_of_keepsProxy (keepsProxy_of_isFinished (isFinished_of_cutOff ht))) hg
  | _ => exact ht.lt

/-- A turn of a task in line, or at work, belongs to the operation that the task has the lock
for. -/
theorem Turn.operates (h : p.Turn t s s' es r) (hp : p.Attainable) (ht : p.At t s)
    (hs : s.aim = some goal)
    (hbefore : s.grip = .holding → ∃ q goal ws, Operates q t goal p s ws) :
    ∃ q ws, Operates q t goal (r.goOn t s' es) s' ws ∧ ∀ x ∈ es, x ≠ .lockTaken goal → x ∈ ws := by
  cases hg : s.grip with
  | holding =>
    obtain ⟨q, goal', ws, ho⟩ := hbefore hg
    have hgoal : some goal' = some goal :=
      (ho.operation hg).symm.trans ((Stage.aim_of_grip hg).symm.trans hs)
    cases hgoal
    exact ⟨q, _, ho.goesOn hg h, fun x hx _ => by simp [hx]⟩
  | inLine =>
    obtain ⟨goal', rfl⟩ := Stage.exists_goal hg
    obtain rfl := Option.some.inj hs
    obtain ⟨es', rfl⟩ := h.begins
    exact ⟨p, _, .begins hp ht h, fun x hx hne => by simpa [hne] using hx⟩
  | off => exact nomatch hs.symm.trans (Stage.aim_eq_none_iff.mpr hg)

/-- Whoever is at work under the lock has an operation under way. -/
theorem Attainable.operates (h : p.Attainable) (ht : p.At t s) (hg : s.grip = .holding) :
    ∃ q goal ws, Operates q t goal p s ws := by
  refine h.induct (I := fun p => ∀ s, p.At t s → s.grip = .holding →
    ∃ q goal ws, Operates q t goal p s ws) (fun q hq s ht => ?_) (fun p r hp hi hs s ht hg => ?_)
    s ht hg
  · simp [At, hq.tasks] at ht
  · have hlt : t < p.tasks.length := hs.lt_of_grip ht (by simp [hg])
    obtain ⟨s₀, ht₀⟩ : ∃ s₀, p.At t s₀ := ⟨_, List.getElem?_eq_getElem hlt⟩
    cases hs.passes ht₀ with
    | @turned r' s' es hturn hr =>
      subst hr
      obtain rfl := ht.unique (ht₀.goOn hturn.frame.tasks)
      have hon : s₀.aim ≠ none := fun hnone =>
        hturn.grip_of_off (Stage.aim_eq_none_iff.mp hnone) hg
      obtain ⟨goal, hgoal⟩ := Option.ne_none_iff_exists'.mp hon
      obtain ⟨q, ws, ho, -⟩ := hturn.operates hp ht₀ hgoal (hi _ ht₀)
      exact ⟨q, goal, ws, ho⟩
    | aside new hh hnew hn hat =>
      obtain hat | ⟨-, hat⟩ := hat
      · obtain rfl := ht.unique hat
        obtain ⟨q, goal, ws, ho⟩ := hi _ ht₀ hg
        exact ⟨q, goal, ws, ho.waits hg hs ht (eventsOf_of_append hh hnew)⟩
      · obtain rfl := ht.unique hat
        cases hg

/-- How an opening ends, its last turn says. -/
theorem Turn.openingEnded (h : p.Turn t s s' es q) {result : Except ConnectionError OpenOutcome}
    (hx : .openingEnded result ∈ es) : s'.grip ≠ .holding ∧ ∃ o, s.aim = some (.connect o) := by
  have hnote : ∀ {ns : List Happening}, Noted ns → .openingEnded result ∉ ns := fun hn =>
    hn.not_mem nofun
  cases h with
  | foundOpen _ _ _ hx' | connected _ hx' | replaced _ _ hx' | connectFailed _ hx' =>
    exact ⟨by cases hx' <;> nofun, _, rfl⟩
  | connectPaused | connectBackedOff => simp [hnote (p.noted_willReopenNotes _ _)] at hx
  | drained he hn => cases he <;> simp [hnote (p.noted_stopNotes _ _), hnote hn.noted] at hx
  | failedForGood he | teardownClosed he => cases he <;> simp at hx
  | lostConnection he | backedOff he => cases he <;> simp [hnote (p.noted_willRetryNotes _ _)] at hx
  | teardownAborted he => cases he <;> simp [hnote (p.noted_teardownAbortNotes _)] at hx
  | _ => simp at hx

/-- How a close or an abort ends, its last turn says. -/
theorem Turn.stopped (h : p.Turn t s s' es q) {result : Except ConnectionError Bool}
    (hx : .returned (.stopped result) ∈ es) :
    s' = .finished (.stopped result) ∧ ∃ stop : Stop, s.aim = some stop.goal := by
  have hnote : ∀ {ns : List Happening}, Noted ns → .returned (.stopped result) ∉ ns := fun hn =>
    hn.not_mem nofun
  cases h with
  | @stoppedClosed stop | @stoppedEmpty stop =>
    obtain rfl : result = _ := by simpa using hx
    exact ⟨rfl, stop, by cases stop <;> rfl⟩
  | abortedEmpty | abortRefused =>
    obtain rfl : result = _ := by simpa using hx
    exact ⟨rfl, .abort, rfl⟩
  | @drained stop _ _ _ _ _ _ _ he hn =>
    cases he <;>
    · simp only [List.mem_cons, List.mem_append, hnote (p.noted_stopNotes _ _), hnote hn.noted,
        Happening.returned.injEq, Outcome.stopped.injEq, reduceCtorEq, List.not_mem_nil,
        or_false] at hx
      exact ⟨by rw [hx], stop, rfl⟩
  | foundOpen _ _ _ hx' | connectFailed _ hx' => cases hx' <;> simp at hx
  | connected _ hx' => cases hx' <;> simp [hnote (p.noted_installNotes _)] at hx
  | replaced he hn hx' =>
    cases he <;> cases hx' <;> simp [hnote (p.noted_installNotes _),
      hnote (p.noted_staleNotes _), hnote hn.noted] at hx
  | connectPaused | connectBackedOff => simp [hnote (p.noted_willReopenNotes _ _)] at hx
  | failedForGood he | teardownClosed he => cases he <;> simp [Call.failure] at hx
  | lostConnection he | backedOff he => cases he <;> simp [hnote (p.noted_willRetryNotes _ _)] at hx
  | teardownAborted he => cases he <;> simp [hnote (p.noted_teardownAbortNotes _)] at hx
  | _ => simp [Call.failure] at hx

/-- As long as an opening is under way, it has not come to its end. -/
theorem Operates.openingEnded_not_mem (h : q.Operates t goal p s ws) (hg : s.grip = .holding)
    (result : Except ConnectionError OpenOutcome) : .openingEnded result ∉ ws := by
  induction h with
  | begins _ _ hturn =>
    exact fun hx => (hturn.openingEnded (List.mem_append_left _ (List.mem_reverse.mp hx))).1 hg
  | waits _ hg _ _ _ ih => exact ih hg
  | goesOn _ hg' hturn ih =>
    rw [List.mem_append, List.mem_reverse, not_or]
    exact ⟨ih hg', fun hx => (hturn.openingEnded hx).1 hg⟩

/-- An opening comes to its end at a moment of that opening. -/
theorem Attainable.exists_openingEnded (h : p.Attainable) {time : Nat}
    {result : Except ConnectionError OpenOutcome}
    (hm : ⟨time, some t, .openingEnded result⟩ ∈ p.history) :
    ∃ (q m : Proxy) (o : Opener) (s : Stage) (ws : List Happening),
      q.Operates t (.connect o) m s ws ∧ s.grip ≠ .holding ∧ .openingEnded result ∈ ws ∧
        m.now = time ∧ m.Stretches p := by
  obtain ⟨later, earlier, hh⟩ := List.append_of_mem hm
  obtain ⟨q, r, s, s', es₁, es₂, rest, hq, hnow, ht, hturn, hp, -, -⟩ := h.origin (by simp) hh
  obtain ⟨hs', o, ho⟩ := hturn.openingEnded (List.mem_append_right _ (.head _))
  obtain ⟨q₀, ws, hop, hws⟩ := hturn.operates hq ht ho (hq.operates ht)
  exact ⟨q₀, _, o, s', ws, hop, hs', hws _ (by simp) nofun, hturn.frame.now.trans hnow, hp⟩

/-- A close or an abort comes to its end at a moment of that operation. -/
theorem Attainable.exists_stopped (h : p.Attainable) {time : Nat}
    {result : Except ConnectionError Bool}
    (hm : ⟨time, some t, .returned (.stopped result)⟩ ∈ p.history) :
    ∃ (q m : Proxy) (stop : Stop) (ws : List Happening),
      q.Operates t stop.goal m (.finished (.stopped result)) ws ∧ m.now = time ∧
        m.Stretches p := by
  obtain ⟨later, earlier, hh⟩ := List.append_of_mem hm
  obtain ⟨q, r, s, s', es₁, es₂, rest, hq, hnow, ht, hturn, hp, -, -⟩ := h.origin (by simp) hh
  obtain ⟨rfl, stop, hstop⟩ := hturn.stopped (List.mem_append_right _ (.head _))
  obtain ⟨q₀, ws, hop, -⟩ := hturn.operates hq ht hstop (hq.operates ht)
  exact ⟨q₀, _, stop, ws, hop, hturn.frame.now.trans hnow, hp⟩

/-- Nothing happens any more in a task that has ended. -/
theorem Stretches.eventsOf_of_finished {o : Outcome} (h : p.Stretches q)
    (ht : p.At t (.finished o)) : q.At t (.finished o) ∧ q.eventsOf t = p.eventsOf t := by
  induction h with
  | refl => exact ⟨ht, rfl⟩
  | tail _ hs ih =>
    obtain ⟨hat, hevents⟩ := ih
    cases hs.passes hat with
    | turned hturn => exact nomatch hturn.unfinished
    | aside new hh hnew hn hat' =>
      obtain hat' | ⟨hf, -⟩ := hat'
      · exact ⟨hat', (eventsOf_of_append hh hnew).trans hevents⟩
      · exact nomatch hf

/-! ## Between two operations -/

/-- Nobody gets the lock for an operation in what is new in a history. -/
def Undisturbed (new : List Event) : Prop :=
  ∀ e ∈ new, ∀ goal, e.what = .lockTaken goal → goal.isOperation = false

/-- The connection is still in the slot, unless the proxy was dropped. -/
def KeepsHandle (p q : Proxy) : Prop :=
  q.dropped = true ∨ q.dropped = p.dropped ∧ q.slot.handle = p.slot.handle

theorem KeepsHandle.trans (h : p.KeepsHandle q) (h' : q.KeepsHandle r) : p.KeepsHandle r := by
  obtain hd | ⟨hd, hc⟩ := h'
  · exact .inl hd
  · obtain hd' | ⟨hd', hc'⟩ := h
    · exact .inl (hd.trans hd')
    · exact .inr ⟨hd.trans hd', hc.trans hc'⟩

/-- With its last turn, an operation leaves nobody at work under the lock. -/
theorem Operates.rests (h : q.Operates t goal p s ws) (hs : s.grip ≠ .holding) (v : TaskId) :
    p.grip v ≠ .holding := by
  have hrests {p r : Proxy} {s₀ : Stage} {es : List Happening} (hp : p.Attainable)
      (ht : p.At t s₀) (hturn : p.Turn t s₀ s es r) (howner : p.lock.owner = some t) :
      (r.goOn t s es).grip v ≠ .holding := by
    have hgrip : (r.goOn t s es).grip = Function.update p.grip t s.grip :=
      view_goOn ht hturn.frame.tasks
    rw [hgrip]
    by_cases hv : v = t
    · rwa [hv, Function.update_self]
    · rw [Function.update_of_ne hv]
      exact fun hg => hv (Option.some.inj ((Orderly.holder hp.inOrder v hg).symm.trans howner))
  cases h with
  | begins h ht hturn => exact hrests h ht hturn hturn.of_lockTaken.2.1
  | waits _ hg => exact absurd hg hs
  | goesOn h hg hturn =>
    obtain ⟨hp, ht⟩ := h.attainable
    exact hrests hp ht hturn (Orderly.holder hp.inOrder t (ht.grip.trans hg))

/-- Only an operation on the connection puts a task to work, or changes the slot. -/
theorem Turn.of_undisturbed (h : p.Turn t s s' es q) (ho : p.InOrder) (ht : p.At t s)
    (hg : s.grip ≠ .holding) (hes : ∀ goal, .lockTaken goal ∈ es → goal.isOperation = false) :
    s'.grip ≠ .holding ∧ q.slot = p.slot := by
  cases hs : s.grip with
  | holding => exact absurd hs hg
  | off =>
    refine ⟨h.grip_of_off hs, ?_⟩
    obtain hslot | howner | hhold := h.slot
    · exact hslot
    · exact absurd (ht.grip.trans hs) (Orderly.owner_grip ho howner)
    · exact absurd hhold hg
  | inLine =>
    obtain ⟨goal, rfl⟩ := Stage.exists_goal hs
    obtain ⟨es', rfl⟩ := h.begins
    have hlook : goal.isOperation = false := hes goal (by simp)
    generalize hstage : Stage.awaitingLock goal = s₀, es' ++ [.lockTaken goal] = es at h
    cases h with
    | attemptedEmpty | arenaRefused | attemptSent => exact ⟨nofun, rfl⟩
    | foundOpen | foundFaulted | foundClosed | foundEmpty | abortStarted =>
      cases hstage
      exact nomatch hlook
    | @closeStarted stop | @stoppedClosed stop | @stoppedEmpty stop =>
      cases stop <;>
      · cases hstage
        exact nomatch hlook
    | _ => cases hstage

theorem grip_append (hq : q.tasks = p.tasks ++ [s]) (hs : s.grip = .off) : q.grip = p.grip :=
  view_append hs hq

theorem Dropping.grip (h : p.Dropping q) : q.grip = p.grip := by
  cases h with
  | running => exact grip_append (by rfl) rfl
  | _ => rfl

theorem Stretch.keepsHandle (h : p.Stretch q) (ho : p.InOrder) (hp : ∀ v, p.grip v ≠ .holding)
    {new : List Event} (hh : q.history = new ++ p.history) (hnew : Undisturbed new) :
    (∀ v, q.grip v ≠ .holding) ∧ p.KeepsHandle q := by
  cases h with
  | submitted =>
    refine ⟨fun v hv => hp v ?_, .inr ⟨rfl, rfl⟩⟩
    exact (congrFun (grip_append (by rfl) rfl) v).symm.trans hv
  | @turned r u s s' es ht hturn =>
    have hf := hturn.frame
    have hes : ∀ goal, .lockTaken goal ∈ es → goal.isOperation = false := by
      intro goal hgoal
      rw [goOn_history, hf.history, List.append_cancel_right_eq] at hh
      exact hnew ⟨r.now, some u, .lockTaken goal⟩
        (hh ▸ List.mem_map.mpr ⟨_, hgoal, rfl⟩) goal rfl
    obtain ⟨hs', hslot⟩ := hturn.of_undisturbed ho ht (ht.grip ▸ hp u) hes
    exact ⟨grip_goOn_ne hp ht hf.tasks hs', .inr ⟨hf.dropped, congrArg Slot.handle hslot⟩⟩
  | observed _ _ hc | observedEmpty _ _ hc => exact ⟨hp, .inr ⟨rfl, hc.symm⟩⟩
  | dropped _ _ hdrop =>
    exact ⟨hdrop.grip ▸ hp, .inl hdrop.dropped⟩
  | @halted r hr =>
    have hoff : ∀ v, r.cutOff.grip v ≠ .holding := fun v => by simp [grip_cutOff]
    refine ⟨hoff, ?_⟩
    cases hr with
    | kept => exact .inr ⟨rfl, rfl⟩
    | dropped _ _ hdrop => exact .inl hdrop.dropped
  | _ => exact ⟨hp, .inr ⟨rfl, rfl⟩⟩

theorem Stretches.keepsHandle (h : p.Stretches q) (ha : p.Attainable)
    (hp : ∀ v, p.grip v ≠ .holding) {new : List Event} (hh : q.history = new ++ p.history)
    (hnew : Undisturbed new) : (∀ v, q.grip v ≠ .holding) ∧ p.KeepsHandle q := by
  induction h generalizing new with
  | refl => exact ⟨hp, .inr ⟨rfl, rfl⟩⟩
  | @tail m q hm hs ih =>
    obtain ⟨-, old, hold, -⟩ := Stretches.continues hm
    obtain ⟨-, last, hlast, -⟩ := hs.continues
    obtain rfl : new = last ++ old := by
      rw [hlast, hold, ← List.append_assoc] at hh
      exact (List.append_cancel_right hh).symm
    have hboth : Undisturbed last ∧ Undisturbed old := List.forall_mem_append.mp hnew
    obtain ⟨hrest, hkeeps⟩ := ih hold hboth.2
    obtain ⟨hrest', hkeeps'⟩ := hs.keepsHandle (ha.stretches hm).inOrder hrest hlast hboth.1
    exact ⟨hrest', hkeeps.trans hkeeps'⟩

/-- Task `u` is the next that gets the lock for an operation, when the proxy has become `q`. -/
structure Next (p q : Proxy) (u : TaskId) (goal : Goal) : Prop where
  stretches : p.Stretches q
  undisturbed : ∃ new, q.history = new ++ p.history ∧ Undisturbed new
  waits : q.At u (.awaitingLock goal)
  owns : q.lock.owner = some u

/-- The next operation finds the connection that the last one left in the slot. -/
theorem Next.handle (hn : p.Next r u goal) (h : q.Operates t goal' p s ws)
    (hs : s.grip ≠ .holding) :
    r.slot.handle = p.slot.handle := by
  obtain ⟨ha, -⟩ := h.attainable
  obtain ⟨new, hh, hnew⟩ := hn.undisturbed
  obtain ⟨-, hd | ⟨-, hc⟩⟩ := hn.stretches.keepsHandle ha (h.rests hs) hh hnew
  · exact nomatch (ha.stretches hn.stretches).settled.left hd u _ hn.waits
  · exact hc

end Proxy

end ResilientProxy
