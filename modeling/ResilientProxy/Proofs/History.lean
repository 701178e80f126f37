import ResilientProxy.Proofs.Chain

/-!
# The history only grows

Nothing that happened is ever taken back: a run adds to the history, and what it adds is no earlier
than what was there. A task stays where it is until a move concerns it, or the runtime ends.
-/

namespace ResilientProxy

/-- The task that a move concerns. -/
def Move.task? : Move → Option TaskId
  | .resume t _ | .allocate t _ => some t
  | _ => none

namespace Proxy

variable {p q : Proxy} {t u : TaskId} {s : Stage} {m : Move}

/-- What a stretch comes to for the history. -/
inductive Effect (p : Proxy) : Proxy → Prop where
  | submitted {job : Job} : Effect p { p with
      tasks := p.tasks ++ [.queued job]
      history := ⟨p.now, some p.tasks.length, .submitted job⟩ :: p.history }
  | turned {q : Proxy} {t : TaskId} {s s' : Stage} {es : List Happening} (ht : p.At t s)
      (h : p.Turn t s s' es q) : Effect p (q.goOn t s' es)
  | ticked {ms nanos : Nat} :
    Effect p { p with now := p.now + ms, uptime := p.uptime + nanos }
  | aside {q : Proxy} (h : p.Aside q) : Effect p q

theorem Stretch.effect (h : p.Stretch q) : p.Effect q := by
  cases h with
  | submitted => exact .submitted
  | turned ht hturn => exact .turned ht hturn
  | ticked => exact .ticked
  | observed => exact .aside (.of_events [_, _] (by simp [Happening.isAside]))
  | observedEmpty | observedBusy =>
    exact .aside (.of_events [_] (by simp [Happening.isAside]))
  | drifted | disowned => exact .aside ⟨rfl, rfl, rfl, rfl, rfl, Nat.le_refl _, [], rfl, by simp⟩
  | dropped _ _ hdrop => exact .aside hdrop.aside
  | halted hq => exact .aside (halted_aside hq)

theorem Reaping.at (h : p.Reaping q) (ht : p.At t s) : q.At t s := by
  cases h with
  | kept => exact ht
  | dropped _ _ hd =>
    cases hd with
    | running => exact ht.append rfl
    | _ => exact ht

/-- What a stretch comes to for task `t`, which stands at `s`. -/
inductive Passes (p q : Proxy) (t : TaskId) (s : Stage) : Prop where
  | turned {r : Proxy} {s' : Stage} {es : List Happening} (h : p.Turn t s s' es r)
      (hq : q = r.goOn t s' es)
  | aside (new : List Event) (hh : q.history = new ++ p.history)
      (hnew : ∀ e ∈ new, e.task ≠ some t) (hn : p.now ≤ q.now)
      (ht : q.At t s ∨ s.isFinished = false ∧ q.At t (.finished .vanished))

theorem Stretch.passes (h : p.Stretch q) (ht : p.At t s) : p.Passes q t s := by
  cases h with
  | submitted =>
    exact .aside [_] rfl (by simpa using Nat.ne_of_gt ht.lt) (Nat.le_refl _) (.inl (ht.append rfl))
  | @turned r u s₁ s' es hu hturn =>
    have hf := hturn.frame
    by_cases hut : u = t
    · subst hut
      cases ht.unique hu
      exact .turned hturn rfl
    · refine .aside (es.map (⟨r.now, some u, ·⟩)) (by rw [goOn_history, hf.history])
        (by simpa using fun _ _ => hut) (Nat.le_of_eq hf.now.symm) (.inl ?_)
      exact (at_goOn hu hf.tasks).mpr (.inr ⟨fun h => hut h.symm, ht⟩)
  | observed => exact .aside [_, _] rfl (by simp) (Nat.le_refl _) (.inl ht)
  | observedEmpty | observedBusy => exact .aside [_] rfl (by simp) (Nat.le_refl _) (.inl ht)
  | drifted | disowned => exact .aside [] rfl (by simp) (Nat.le_refl _) (.inl ht)
  | ticked => exact .aside [] rfl (by simp) (Nat.le_add_right ..) (.inl ht)
  | dropped hu hd hdrop =>
    obtain ⟨new, hh, hnew⟩ := hdrop.aside.history
    exact .aside new hh (fun e he => by simp [(hnew e he).2.1])
      (Nat.le_of_eq hdrop.aside.now.symm) (.inl (Reaping.at (.dropped hu hd hdrop) ht))
  | halted hq =>
    obtain ⟨new, hh, hnew⟩ := (halted_aside hq).history
    refine .aside new hh (fun e he => by simp [(hnew e he).2.1])
      (Nat.le_of_eq (halted_aside hq).now.symm) ?_
    have hend := (hq.at ht.cutOff).cutOff
    by_cases hs : s.isFinished = true
    · rw [if_pos hs, if_pos hs] at hend
      exact .inl hend
    · rw [if_neg hs, ite_self] at hend
      exact .inr ⟨by simpa using hs, hend⟩

theorem Advances.at_ne (h : p.Advances t q) (hu : u ≠ t) (hs : p.At u s) : q.At u s := by
  obtain ⟨ht, hturn, -⟩ := h
  exact (at_goOn ht hturn.frame.tasks).mpr (.inr ⟨hu, hs⟩)

/-- A task stays where it is while another one takes turns. -/
theorem at_ne_of_advances (h : Relation.TransGen (Advances t) p q) (hu : u ≠ t)
    (hs : p.At u s) : q.At u s := by
  induction h with
  | single h => exact h.at_ne hu hs
  | tail _ h ih => exact h.at_ne hu ih

theorem At.setStage_ne {s' : Stage} (h : p.At u s) (hu : u ≠ t) : (p.setStage t s').At u s := by
  simp only [At] at h
  simp [At, setStage, List.getElem?_set_ne hu.symm, h]

/-- A move that does not concern a task leaves it where it is, unless it ends the runtime. -/
theorem At.apply (h : p.At t s) (hm : m.task? ≠ some t) (hs : m ≠ .shutDown) :
    (p.apply m).At t s := by
  cases m with
  | submit job =>
    simp only [Proxy.apply, submit]
    split
    · exact h.append rfl
    · exact h
  | resume u signal =>
    have hu : t ≠ u := fun he => hm (he ▸ rfl)
    obtain hcourse | heq := @resume_course p u signal
    · exact at_ne_of_advances hcourse.turns hu h
    · simpa only [Proxy.apply, heq] using h
  | allocate u n =>
    have hu : t ≠ u := fun he => hm (he ▸ rfl)
    simp only [Proxy.apply, allocate]
    split
    · split
      · exact h.setStage_ne hu
      · exact h
    · exact h
  | drift | tick | disown => exact h
  | observe =>
    simp only [Proxy.apply]
    split
    · simp only [Proxy.observe, Proxy.refresh]
      repeat' split
      all_goals exact h
    · exact h
  | shutDown => exact absurd rfl hs

/-- The history of `q` continues that of `p`. -/
def Continues (p q : Proxy) : Prop :=
  p.now ≤ q.now ∧ ∃ new, q.history = new ++ p.history ∧
    (new.Pairwise fun x y => y.time ≤ x.time) ∧ ∀ e ∈ new, p.now ≤ e.time ∧ e.time ≤ q.now

theorem Continues.refl (p : Proxy) : p.Continues p :=
  ⟨Nat.le_refl _, [], rfl, .nil, by simp⟩

theorem Continues.trans {r : Proxy} (h : p.Continues q) (h' : q.Continues r) : p.Continues r := by
  obtain ⟨hn, new, hh, hp, ht⟩ := h
  obtain ⟨hn', new', hh', hp', ht'⟩ := h'
  refine ⟨Nat.le_trans hn hn', new' ++ new, by rw [hh', hh, List.append_assoc], ?_, fun e he => ?_⟩
  · refine List.pairwise_append.mpr ⟨hp', hp, fun x hx y hy => ?_⟩
    exact Nat.le_trans (ht y hy).2 (ht' x hx).1
  · cases List.mem_append.mp he with
    | inl he => exact ⟨Nat.le_trans hn (ht' e he).1, (ht' e he).2⟩
    | inr he => exact ⟨(ht e he).1, Nat.le_trans (ht e he).2 hn'⟩

/-- What happens at one moment continues the history. -/
theorem Continues.of_now (new : List Event) (hn : q.now = p.now)
    (hh : q.history = new ++ p.history) (ht : ∀ e ∈ new, e.time = p.now) : p.Continues q := by
  refine ⟨Nat.le_of_eq hn.symm, new, hh, ?_, fun e he => ?_⟩
  · exact List.pairwise_of_forall_mem_list fun x hx y hy =>
      Nat.le_of_eq ((ht y hy).trans (ht x hx).symm)
  · exact ⟨Nat.le_of_eq (ht e he).symm, Nat.le_of_eq ((ht e he).trans hn.symm)⟩

theorem Stretch.continues (h : p.Stretch q) : p.Continues q := by
  cases h.effect with
  | submitted => exact .of_now [_] rfl rfl (by simp)
  | @turned q t s s' es ht hturn =>
    have hf := hturn.frame
    exact .of_now (es.map (⟨q.now, some t, ·⟩)) hf.now (by rw [goOn_history, hf.history])
      (by simp [hf.now])
  | ticked => exact ⟨Nat.le_add_right .., [], rfl, .nil, by simp⟩
  | aside ha =>
    obtain ⟨new, hh, hnew⟩ := ha.history
    exact .of_now new ha.now hh fun e he => (hnew e he).1

theorem Stretches.continues (h : p.Stretches q) : p.Continues q := by
  induction h with
  | refl => exact .refl p
  | tail _ hs ih => exact ih.trans hs.continues

/-- The history is in order of time. -/
theorem Reachable.history_sorted (h : p.Reachable) :
    p.history.Pairwise fun x y => y.time ≤ x.time := by
  obtain ⟨a, config, us, clock, start, ms, hc, rfl⟩ := h
  obtain ⟨-, new, hh, hp, -⟩ := Stretches.continues (run_stretches (p := start) ms)
  rw [hh, (fresh_of_create hc).history, List.append_nil]
  exact hp

theorem Stretches.config (h : p.Stretches q) : q.config = p.config := by
  induction h with
  | refl => rfl
  | tail _ hs ih =>
    refine Eq.trans ?_ ih
    cases hs.effect with
    | submitted | ticked => rfl
    | turned _ hturn => exact hturn.frame.config
    | aside ha => exact ha.config

theorem Stretches.clock (h : p.Stretches q) : q.clock = p.clock := by
  induction h with
  | refl => rfl
  | tail _ hs ih =>
    refine Eq.trans ?_ ih
    cases hs.effect with
    | submitted | ticked => rfl
    | turned _ hturn => exact hturn.frame.clock
    | aside ha => exact ha.clock

theorem Reaping.address (h : p.Reaping q) : q.address = p.address := by
  cases h with
  | kept => rfl
  | dropped _ _ hd => cases hd <;> rfl

theorem Stretches.address (h : p.Stretches q) : q.address = p.address := by
  induction h with
  | refl => rfl
  | tail _ hs ih =>
    refine Eq.trans ?_ ih
    cases hs with
    | turned _ hturn => exact hturn.frame.address
    | dropped hu hd hdrop => exact Reaping.address (.dropped hu hd hdrop)
    | halted hq => exact hq.address
    | _ => rfl

/-- Only tasks that exist have a part in the history. -/
def TasksExist (p : Proxy) : Prop :=
  ∀ e ∈ p.history, ∀ t, e.task = some t → t < p.tasks.length

theorem TasksExist.of_append (h : p.TasksExist) (new : List Event)
    (hh : q.history = new ++ p.history) (hl : p.tasks.length ≤ q.tasks.length)
    (hnew : ∀ e ∈ new, ∀ t, e.task = some t → t < q.tasks.length) : q.TasksExist := by
  intro e he t ht
  rw [hh] at he
  cases List.mem_append.mp he with
  | inl he => exact hnew e he t ht
  | inr he => exact Nat.lt_of_lt_of_le (h e he t ht) hl

theorem Aside.tasksExist (ha : p.Aside q) (h : p.TasksExist) : q.TasksExist := by
  obtain ⟨new, hh, hnew⟩ := ha.history
  exact h.of_append new hh ha.length_le fun e he t ht => by simp [(hnew e he).2.1] at ht

theorem Stretch.tasksExist (hs : p.Stretch q) (h : p.TasksExist) : q.TasksExist := by
  cases hs.effect with
  | submitted => exact h.of_append [_] rfl (by simp) (by simp)
  | @turned q t s s' es ht hturn =>
    have hf := hturn.frame
    refine h.of_append (es.map (⟨q.now, some t, ·⟩)) (by rw [goOn_history, hf.history])
      (by simp [hf.tasks]) fun e he u hu => ?_
    obtain ⟨x, -, rfl⟩ := List.mem_map.mp he
    obtain rfl : t = u := Option.some.inj hu
    simpa [hf.tasks] using ht.lt
  | ticked => exact h
  | aside ha => exact ha.tasksExist h

theorem Attainable.tasksExist (h : p.Attainable) : p.TasksExist :=
  h.induct (fun q hq e he => by simp [hq.history] at he) fun _ _ _ hi hs => hs.tasksExist hi

theorem Reachable.tasksExist (h : p.Reachable) : p.TasksExist := h.attainable.tasksExist

theorem At.shutDown (h : p.At t s) :
    (p.apply .shutDown).At t (if s.isFinished then s else .finished .vanished) := by
  have hend := (reap_reaping.at h.cutOff).cutOff
  by_cases hs : s.isFinished = true
  · simp only [if_pos hs] at hend ⊢
    exact hend
  · simp only [if_neg hs, ite_self] at hend ⊢
    exact hend

/-- What happened in a task, the latest first. -/
def eventsOf (p : Proxy) (t : TaskId) : List Event := p.history.filter (·.task == some t)

/-- Whether somebody started the task; nobody does so with a teardown. -/
def Submitted (p : Proxy) (t : TaskId) : Prop :=
  ∃ time job, ⟨time, some t, .submitted job⟩ ∈ p.history

theorem submitted_iff :
    p.Submitted t ↔ ∃ time job, ⟨time, some t, .submitted job⟩ ∈ p.eventsOf t := by
  simp [Submitted, eventsOf]

theorem eventsOf_of_append {new : List Event} (hh : q.history = new ++ p.history)
    (hnew : ∀ e ∈ new, e.task ≠ some t) : q.eventsOf t = p.eventsOf t := by
  have hnone : new.filter (·.task == some t) = [] := by simpa [List.filter_eq_nil_iff] using hnew
  rw [eventsOf, hh, List.filter_append, hnone, List.nil_append, eventsOf]

theorem eventsOf_turn {s' : Stage} {es : List Happening} (hf : p.Frame q) :
    (q.goOn t s' es).eventsOf t = es.map (⟨p.now, some t, ·⟩) ++ p.eventsOf t := by
  rw [eventsOf, goOn_history, List.filter_append, List.filter_map, hf.history, hf.now]
  congr 2
  simp [Function.comp_def]

theorem eventsOf_of_turn_ne (hf : p.Frame q) (hu : u ≠ t) (s' : Stage) (es : List Happening) :
    (q.goOn t s' es).eventsOf u = p.eventsOf u := by
  have hh : (q.goOn t s' es).history = es.map (⟨q.now, some t, ·⟩) ++ p.history := by
    rw [goOn_history, hf.history]
  refine eventsOf_of_append hh fun e he => ?_
  obtain ⟨x, -, rfl⟩ := List.mem_map.mp he
  simpa using hu.symm

theorem Aside.eventsOf (h : p.Aside q) : q.eventsOf t = p.eventsOf t := by
  obtain ⟨new, hh, hnew⟩ := h.history
  exact eventsOf_of_append hh fun e he => by simp [(hnew e he).2.1]

/-- Nothing has happened in a task that does not exist. -/
theorem TasksExist.eventsOf_eq_nil (h : p.TasksExist) (ht : p.tasks.length ≤ t) :
    p.eventsOf t = [] := by
  refine List.filter_eq_nil_iff.mpr fun e he => ?_
  have hne : e.task ≠ some t := fun heq => Nat.not_lt.mpr ht (h e he t heq)
  simp [hne]

/-! ## What holds of every task -/

/-- What holds of every task, of where it stands and of what happened in it. -/
def Tasks (I : Config → Clock → Nat → TaskId → Stage → List Event → Prop) (p : Proxy) : Prop :=
  ∀ t s, p.At t s → I p.config p.clock p.now t s (p.eventsOf t)

/-- What `Tasks I` takes to be kept: that `I` holds at the start of every task, is kept by its
turns, and by the passing of time, and survives the end of the runtime. -/
structure Kept (I : Config → Clock → Nat → TaskId → Stage → List Event → Prop) : Prop where
  queued : ∀ config clock now t job,
    I config clock now t (.queued job) [⟨now, some t, .submitted job⟩]
  teardown : ∀ config clock now t conn s, I config clock now t (.teardownQueued conn s) []
  turn : ∀ (p q : Proxy) t s s' es old, I p.config p.clock p.now t s old → p.Turn t s s' es q →
    I p.config p.clock p.now t s' (es.map (⟨p.now, some t, ·⟩) ++ old)
  later : ∀ config clock now now' t s old, now ≤ now' → I config clock now t s old →
    I config clock now' t s old
  vanished : ∀ config clock now t s old, s.isFinished = false → I config clock now t s old →
    I config clock now t (.finished .vanished) old

section

variable {I : Config → Clock → Nat → TaskId → Stage → List Event → Prop}

/-- Nothing happens in tasks that stay where they are. -/
theorem Tasks.of_append (hI : Kept I) (h : p.Tasks I) (new : List Event)
    (hh : q.history = new ++ p.history) (hnew : ∀ e ∈ new, e.task = none)
    (hc : q.config = p.config) (hk : q.clock = p.clock) (hn : p.now ≤ q.now)
    (ht : ∀ t s, q.At t s → p.At t s) : q.Tasks I := by
  intro t s hat
  have hsame : q.eventsOf t = p.eventsOf t :=
    eventsOf_of_append hh fun e he => by simp [hnew e he]
  rw [hc, hk, hsame]
  exact hI.later _ _ _ _ _ _ _ hn (h t s (ht t s hat))

theorem Dropping.tasks (hd : p.Dropping q) (hI : Kept I) (h : p.Tasks I) (he : p.TasksExist) :
    q.Tasks I := by
  intro t s hat
  rw [hd.aside.config, hd.aside.clock, hd.aside.now, hd.aside.eventsOf]
  cases hd with
  | empty | closed | outside => exact h t s hat
  | running =>
    obtain ht | ⟨rfl, rfl⟩ := at_append rfl hat
    · exact h t s ht
    · rw [he.eventsOf_eq_nil (Nat.le_refl _)]
      exact hI.teardown _ _ _ _ _ _

theorem Tasks.cutOff (hI : Kept I) (h : p.Tasks I) : p.cutOff.Tasks I := by
  intro t s hat
  rw [cutOff_aside.eventsOf]
  simp only [At, Proxy.cutOff, List.getElem?_map, Option.map_eq_some_iff] at hat
  obtain ⟨r, hr, rfl⟩ := hat
  have hI' := h t r hr
  split
  · exact hI'
  · exact hI.vanished _ _ _ _ _ _ (Bool.not_eq_true _ ▸ ‹_›) hI'

theorem Stretch.tasks (hs : p.Stretch q) (hI : Kept I) (h : p.Tasks I) (he : p.TasksExist) :
    q.Tasks I := by
  cases hs with
  | @submitted job =>
    intro u r hu
    obtain hu | ⟨rfl, rfl⟩ := at_append rfl hu
    · have hne : ∀ e ∈ [(⟨p.now, some p.tasks.length, .submitted job⟩ : Event)],
          e.task ≠ some u := by
        simpa using Nat.ne_of_gt hu.lt
      have hsame := eventsOf_of_append (p := p) (q := { p with
        tasks := p.tasks ++ [.queued job]
        history := ⟨p.now, some p.tasks.length, .submitted job⟩ :: p.history }) (by rfl) hne
      rw [hsame]
      exact h u r hu
    · rw [eventsOf, List.filter_cons_of_pos (by simp), ← eventsOf,
        he.eventsOf_eq_nil (Nat.le_refl _)]
      exact hI.queued _ _ _ _ _
  | @turned q t s s' es ht hturn =>
    intro u r hu
    have hf := hturn.frame
    obtain ⟨rfl, rfl⟩ | ⟨hne, hu⟩ := (at_goOn ht hf.tasks).mp hu
    · have hI' := hI.turn _ _ _ _ _ _ _ (h _ _ ht) hturn
      rw [← eventsOf_turn hf, ← hf.config, ← hf.clock, ← hf.now] at hI'
      exact hI'
    · have hI' := h u r hu
      rw [← eventsOf_of_turn_ne hf hne s' es, ← hf.config, ← hf.clock, ← hf.now] at hI'
      exact hI'
  | observedEmpty | observedBusy =>
    exact h.of_append hI [_] rfl (by simp) rfl rfl (Nat.le_refl _) fun _ _ => id
  | observed =>
    exact h.of_append hI [_, _] rfl (by simp) rfl rfl (Nat.le_refl _) fun _ _ => id
  | drifted | disowned =>
    exact h.of_append hI [] rfl (by simp) rfl rfl (Nat.le_refl _) fun _ _ => id
  | ticked => exact h.of_append hI [] rfl (by simp) rfl rfl (Nat.le_add_right ..) fun _ _ => id
  | dropped _ _ hdrop => exact hdrop.tasks hI h he
  | halted hq =>
    cases hq with
    | kept => exact (h.cutOff hI).cutOff hI
    | dropped _ _ hdrop =>
      have hall := hdrop.tasks hI (h.cutOff hI) (cutOff_aside.tasksExist he)
      exact hall.cutOff hI

/-- What is kept holds of all tasks in every state that stretches lead to. -/
theorem Attainable.tasks_of_kept (h : p.Attainable) (hI : Kept I) : p.Tasks I :=
  h.induct (fun q hq t s ht => by simp [At, hq.tasks] at ht) fun _ _ hq hi hs =>
    hs.tasks hI hi hq.tasksExist

end

end Proxy

end ResilientProxy
