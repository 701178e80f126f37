import ResilientProxy.Proofs.Agreement
import ResilientProxy.Proofs.CallLoop
import ResilientProxy.Proofs.Slot

/-!
# Attempts that break down

An attempt that breaks its task down gives nothing back. All else is as if the attempt had never
returned: the same happens in every other task, and the one difference is that the task does not
keep the proxy alive any more.
-/

namespace ResilientProxy

/-- All of a proxy but one of its tasks. -/
def Sight.apart (t : TaskId) : Sight where
  task u := u != t
  event e := e.task != some t
  exact := true
  warnings := nofun

namespace Proxy

variable {p q : Proxy} {t u : TaskId} {s : Stage} {m : Move}

/-- What is still possible once the owner's reference is gone: nothing is submitted, and tasks that
have ended rest. -/
structure Rests (p q : Proxy) : Prop where
  unowned : q.owned = false
  dropped : p.dropped = true → q.dropped = true
  finished : ∀ u o, p.At u (.finished o) → q.At u (.finished o) ∧ q.eventsOf u = p.eventsOf u
  submitted : ∀ u, q.Submitted u → p.Submitted u

theorem Rests.of_append (new : List Event) (ho : q.owned = false)
    (hd : p.dropped = true → q.dropped = true) (hh : q.history = new ++ p.history)
    (hnew : ∀ e ∈ new, e.task = none)
    (ht : ∀ u o, p.At u (.finished o) → q.At u (.finished o)) : Rests p q where
  unowned := ho
  dropped := hd
  finished u o hu := ⟨ht u o hu, eventsOf_of_append hh fun e he => by simp [hnew e he]⟩
  submitted := by
    rintro u ⟨time, job, hmem⟩
    rw [hh] at hmem
    obtain hmem | hmem := List.mem_append.mp hmem
    · exact nomatch hnew _ hmem
    · exact ⟨time, job, hmem⟩

theorem Dropping.rests (h : p.Dropping q) (ho : p.owned = false) : p.Rests q := by
  obtain ⟨new, hh, hnew⟩ := h.aside.history
  refine .of_append new (by cases h <;> exact ho) (fun _ => h.dropped) hh
    (fun e he => (hnew e he).2.1) fun u o hu => ?_
  cases h with
  | running => exact hu.append rfl
  | _ => exact hu

theorem Stretch.rests (h : p.Stretch q) (ho : p.owned = false) : p.Rests q := by
  cases h with
  | submitted ho' => simp [ho] at ho'
  | @turned r t s s' es ht hturn =>
    have hf := hturn.frame
    have hne (u : TaskId) (o : Outcome) (hu : p.At u (.finished o)) : u ≠ t := by
      rintro rfl
      obtain rfl := hu.unique ht
      exact nomatch hturn.unfinished
    have hh : (r.goOn t s' es).history = es.map (⟨r.now, some t, ·⟩) ++ p.history := by
      rw [goOn_history, hf.history]
    refine ⟨hf.owned.trans ho, hf.dropped.trans, fun u o hu => ⟨?_, eventsOf_of_append hh ?_⟩, ?_⟩
    · exact (at_goOn ht hf.tasks).mpr (.inr ⟨hne u o hu, hu⟩)
    · simpa using fun _ _ => (hne u o hu).symm
    · rintro u ⟨time, job, hmem⟩
      rw [hh] at hmem
      obtain hmem | hmem := List.mem_append.mp hmem
      · obtain ⟨x, hx, he⟩ := List.mem_map.mp hmem
        cases he
        exact absurd hx (hturn.not_submitted job)
      · exact ⟨time, job, hmem⟩
  | drifted | ticked => exact .of_append [] ho id rfl (by simp) fun _ _ hu => hu
  | disowned => exact .of_append [] rfl id rfl (by simp) fun _ _ hu => hu
  | observed ho' | observedEmpty ho' | observedBusy ho' => simp [ho] at ho'
  | dropped _ _ hd => exact hd.rests ho
  | @halted r hr =>
    obtain ⟨new, hh, hnew⟩ := (halted_aside hr).history
    refine .of_append new ?_ (fun hd => ?_) hh (fun e he => (hnew e he).2.1) fun u o hu => ?_
    · cases hr with
      | kept => exact ho
      | dropped _ _ hdrop => exact (hdrop.rests (p := p.cutOff) ho).unowned
    · cases hr with
      | kept => exact hd
      | dropped _ _ hdrop => exact hdrop.dropped
    · exact (hr.at hu.cutOff).cutOff

theorem Stretches.rests (h : p.Stretches q) (ho : p.owned = false) : p.Rests q := by
  induction h with
  | refl => exact ⟨ho, id, fun _ _ hu => ⟨hu, rfl⟩, fun _ hu => hu⟩
  | tail _ hs ih =>
    have hrest := hs.rests ih.unowned
    refine ⟨hrest.unowned, hrest.dropped ∘ ih.dropped, fun u o hu => ?_,
      fun u hu => ih.submitted u (hrest.submitted u hu)⟩
    obtain ⟨hu', he⟩ := ih.finished u o hu
    obtain ⟨hu'', he'⟩ := hrest.finished u o hu'
    exact ⟨hu'', he'.trans he⟩

theorem Agree.eventsOf (h : p.Agree (.apart t) q) (hu : u ≠ t) : p.eventsOf u = q.eventsOf u := by
  have hsub (l : List Event) :
      (l.filter (·.task != some t)).filter (·.task == some u) = l.filter (·.task == some u) := by
    rw [List.filter_filter]
    congr 1
    funext e
    by_cases he : e.task = some u <;> simp [he, hu]
  rw [Proxy.eventsOf, ← hsub p.history, Proxy.eventsOf, ← hsub q.history]
  exact congrArg _ h.history

/-- `p` is a proxy in which an attempt of task `t` broke down, and `q` is that proxy with an attempt
that never returns instead. -/
inductive Parted (t : TaskId) (p q : Proxy) : Prop where
  | out {s : Stage} (h : p.Agree (.apart t) q) (hp : p.At t (.finished .panicked)) (hq : q.At t s)
      (hs : s.isAttempting = true)
  /-- The runtime has ended. -/
  | cut (h : p.Agree (.apart t) q) (hp : p.At t (.finished .panicked))
      (hq : q.At t (.finished .vanished))
  /-- All other tasks that were submitted have ended, and only in `q` there is a task left that
  keeps the proxy alive. -/
  | ended (hd : p.dropped = true) (hop : p.owned = false) (hoq : q.owned = false)
      (h : ∀ u ≠ t, p.Submitted u ∨ q.Submitted u →
        (∃ o, p.At u (.finished o) ∧ q.At u (.finished o)) ∧ p.eventsOf u = q.eventsOf u)

theorem Parted.of_rests {p' q' : Proxy} (hd : p.dropped = true) (hp : p.Rests p')
    (hq : q.Rests q') (h : ∀ u ≠ t, p.Submitted u ∨ q.Submitted u →
      (∃ o, p.At u (.finished o) ∧ q.At u (.finished o)) ∧ p.eventsOf u = q.eventsOf u) :
    Parted t p' q' := by
  refine .ended (hp.dropped hd) hp.unowned hq.unowned fun u hut hsub => ?_
  obtain ⟨⟨o, hpu, hqu⟩, he⟩ := h u hut (hsub.imp (hp.submitted u) (hq.submitted u))
  obtain ⟨hpu', hpe⟩ := hp.finished u o hpu
  obtain ⟨hqu', hqe⟩ := hq.finished u o hqu
  exact ⟨⟨o, hpu', hqu'⟩, hpe.trans (he.trans hqe.symm)⟩

theorem finished_of_unreferenced (ha : p.Attainable) (hu : p.unreferenced = true)
    (hd : p.dropped = false) (hs : p.At u s) : ∃ o, s = .finished o := by
  have hk : s.keepsProxy = false := keepsProxy_of_unreferenced hu hs
  have htorn : s.tearsDown = false := ha.settled.untorn hd u s hs
  cases s with
  | finished o => exact ⟨o, rfl⟩
  | teardownQueued | teardownAborting | teardownClosing => exact nomatch htorn
  | _ => exact nomatch hk

/-- The last reference goes away where the attempt broke down, and not where it is still out. -/
theorem Parted.of_drop (ha : p.Attainable) (h : p.Agree (.apart t) q) (hu : p.unreferenced = true)
    (hd : p.dropped = false) {r : Proxy} (hdrop : p.Dropping r) : Parted t r q := by
  have hop : p.owned = false := owned_of_unreferenced hu
  have hrest := hdrop.rests hop
  refine .ended hdrop.dropped hrest.unowned (h.owned ▸ hop) fun u hut hsub => ?_
  have hsub : p.Submitted u := by
    obtain hr | hq := hsub
    · exact hrest.submitted u hr
    · rw [submitted_iff] at hq ⊢
      rwa [h.eventsOf hut]
  obtain ⟨time, job, hmem⟩ := hsub
  have hlt : u < p.tasks.length := ha.tasksExist _ hmem u rfl
  have hs : p.At u p.tasks[u] := List.getElem?_eq_getElem hlt
  obtain ⟨o, ho⟩ := finished_of_unreferenced ha hu hd hs
  rw [ho] at hs
  obtain ⟨hr, he⟩ := hrest.finished u o hs
  refine ⟨⟨o, hr, ?_⟩, he.trans (h.eventsOf hut)⟩
  exact (h.tasks u (by simpa [Sight.apart] using hut)).symm.trans hs

theorem keepsProxy_of_isAttempting (h : s.isAttempting = true) : s.keepsProxy = true := by
  cases s <;> first | rfl | exact nomatch h

theorem Parted.apply (h : Parted t p q) (hm : m.task? ≠ some t) :
    Parted t (p.apply m) (q.apply m) := by
  have visible : ∀ u, m.task? = some u → (Sight.apart t).task u = true := by
    intro u hu
    have hne : u ≠ t := fun he => hm (he ▸ hu)
    simpa [Sight.apart] using hne
  have only : ∀ u, (Sight.apart t).task u = false → u = t := by simp [Sight.apart]
  cases h with
  | @out s h hp hq hs =>
    have h' : (p.apply m).Agree (.apart t) (q.apply m) :=
      h.apply visible (fun _ => rfl) fun _ u hu => by
        obtain rfl := only u hu
        exact ⟨_, _, hp, hq, by cases s <;> first | rfl | exact nomatch hs⟩
    by_cases hm' : m = .shutDown
    · subst hm'
      have hq' : (q.apply .shutDown).At t (.finished .vanished) := by
        cases s <;> first | exact hq.shutDown | exact nomatch hs
      exact .cut h' hp.shutDown hq'
    · exact .out h' (hp.apply hm hm') (hq.apply hm hm') hs
  | cut h hp hq =>
    have h' : (p.apply m).Agree (.apart t) (q.apply m) :=
      h.apply visible (fun _ => rfl) fun _ u hu => by
        obtain rfl := only u hu
        exact ⟨_, _, hp, hq, rfl⟩
    by_cases hm' : m = .shutDown
    · subst hm'
      exact .cut h' hp.shutDown hq.shutDown
    · exact .cut h' (hp.apply hm hm') (hq.apply hm hm')
  | ended hd hop hoq h =>
    exact .of_rests hd ((apply_course m).stretches.rests hop) ((apply_course m).stretches.rests hoq)
      h

/-- Where the attempt broke down, the proxy may be dropped while the attempt is still out. -/
theorem Parted.reap (ha : p.Attainable) (h : Parted t p q) : Parted t p.reap q.reap := by
  cases h with
  | out h hp hq hs =>
    rw [reap_of_keepsProxy hq (keepsProxy_of_isAttempting hs)]
    have hreap := reap_reaping (p := p)
    generalize p.reap = r at hreap ⊢
    cases hreap with
    | kept => exact .out h hp hq hs
    | dropped hu hd hdrop => exact .of_drop ha h hu hd hdrop
  | cut h hp hq =>
    refine .cut (h.reap (h.unreferenced fun u hu => ?_)) (reap_reaping.at hp) (reap_reaping.at hq)
    obtain rfl : u = t := by simpa [Sight.apart] using hu
    exact ⟨_, _, hp, hq, rfl⟩
  | ended hd hop hoq h =>
    exact .of_rests hd (reap_leads.stretches.rests hop) (reap_leads.stretches.rests hoq) h

theorem Parted.run (ha : p.Attainable) (h : Parted t p q) {ms : List Move}
    (hms : ∀ m ∈ ms, m.task? ≠ some t) : Parted t (p.run ms) (q.run ms) := by
  induction ms generalizing p q with
  | nil => exact h
  | cons m ms ih =>
    obtain ⟨hm, hms⟩ := List.forall_mem_cons.mp hms
    have happly : (p.apply m).Attainable := ha.stretches (apply_course m).stretches
    exact ih (ha.stretches (step_course m).stretches) ((h.apply hm).reap happly) hms

/-- An attempt of task `t` breaks down, which leads from `p` to `a`; in `b` it is still out. -/
inductive BreaksDown (t : TaskId) (p : Proxy) : Proxy → Proxy → Prop where
  /-- The channel brings it down. -/
  | replied {c : Call} {conn : ConnId} {arena : Arena} {d : Option Nat}
      (ht : p.At t (.attempting c conn arena d)) :
    BreaksDown t p (p.resumeAt t (.attempting c conn arena d) (.reply .panicked)) p
  /-- There is not that much scratch memory. -/
  | refused {c : Call} {conn : ConnId} (ht : p.At t (.awaitingLock (.attempt c)))
      (hl : p.lock.owner = some t) (hc : p.slot.handle = some conn)
      (ha : Arena.largest < c.arenaSize) :
    BreaksDown t p ((p.record (some t) (.lockTaken (.attempt c))).attemptLocked t c)
      (p.handOver t c conn)

/-- Only task `t` tells apart where its turn may have led. -/
theorem goOn_agree (p : Proxy) (t : TaskId) (s s' : Stage) (es es' : List Happening) :
    (p.goOn t s es).Agree (.apart t) (p.goOn t s' es') := {
  Agree.refl _ p with
  length := by simp
  tasks := fun u hu => by
    have hne : t ≠ u := fun he => by simp [Sight.apart, he] at hu
    simp [List.getElem?_set_ne hne]
  history := by simp [Sight.apart, List.filter_append, List.filter_map, Function.comp_def] }

theorem BreaksDown.agree {a b : Proxy} (h : p.BreaksDown t a b) : a.Agree (.apart t) b := by
  cases h with
  | @replied c conn arena d ht =>
    have hself : p.goOn t (.attempting c conn arena d) [] = p := by simp [goOn, set_of_at ht]
    have hagree := p.goOn_agree t (.finished .panicked) (.attempting c conn arena d)
      [.returned .panicked, .callEnded .panicked] []
    rw [hself] at hagree
    exact hagree
  | @refused c conn ht hl hc ha =>
    have hagree := goOn_agree { p with lock := p.lock.pass } t (.finished .panicked)
      (.attempting c conn (.acquire c.arenaSize) (p.deadline p.config.callTimeout))
      [.returned .panicked, .lockReleased, .lookedUp (some conn), .lockTaken (.attempt c)]
      [.callStarted (.invoke conn c.arenaSize 0), .lockReleased, .lookedUp (some conn),
        .lockTaken (.attempt c)]
    simp only [attemptLocked, record, hc, if_pos ha]
    exact hagree

theorem BreaksDown.broken {a b : Proxy} (h : p.BreaksDown t a b) :
    a.At t (.finished .panicked) := by
  cases h with
  | replied ht => exact at_setStage ht.lt _
  | refused ht hl hc ha =>
    simp only [attemptLocked, record, hc, if_pos ha]
    exact at_setStage ht.lt _

theorem BreaksDown.stretch {a b : Proxy} (h : p.BreaksDown t a b) : p.Stretch a := by
  cases h with
  | replied ht => exact .turned ht .brokeDown
  | refused ht hl hc ha =>
    simp only [attemptLocked, record, hc, if_pos ha]
    exact .turned ht (.arenaRefused hl hc ha)

theorem BreaksDown.isAttempting {a b : Proxy} (h : p.BreaksDown t a b) :
    ∃ s, b.At t s ∧ s.isAttempting = true := by
  cases h with
  | replied ht => exact ⟨_, ht, rfl⟩
  | refused ht => exact ⟨_, ht.goOn rfl, rfl⟩

/-- Where two parted proxies stand, and what happened in the other tasks, is the same. -/
theorem Parted.same (h : Parted t p q) (hu : u ≠ t) (hsub : p.Submitted u ∨ q.Submitted u) :
    p.tasks[u]? = q.tasks[u]? ∧ p.eventsOf u = q.eventsOf u := by
  have agree (h : p.Agree (.apart t) q) :
      p.tasks[u]? = q.tasks[u]? ∧ p.eventsOf u = q.eventsOf u :=
    ⟨h.tasks u (by simpa [Sight.apart] using hu), h.eventsOf hu⟩
  cases h with
  | out h => exact agree h
  | cut h => exact agree h
  | ended _ _ _ h =>
    obtain ⟨⟨o, hp, hq⟩, he⟩ := h u hu hsub
    exact ⟨hp.trans hq.symm, he⟩

theorem Parted.agree (h : Parted t p q) (hd : p.dropped = false) : p.Agree (.apart t) q := by
  cases h with
  | out h => exact h
  | cut h => exact h
  | ended hd' => simp [hd] at hd'

/-- After an attempt of `t` broke down, every run that does not concern `t` leads to where it would
if the attempt had never returned: until the proxy is dropped, in all but the task itself, and for
every other task that was submitted to the end. -/
theorem BreaksDown.unnoticed {a b : Proxy} (ha : p.Attainable) (h : p.BreaksDown t a b)
    {ms : List Move} (hms : ∀ m ∈ ms, m.task? ≠ some t) :
    ((a.reap.run ms).dropped = false → (a.reap.run ms).Agree (.apart t) (b.run ms)) ∧
    ∀ u ≠ t, (a.reap.run ms).Submitted u ∨ (b.run ms).Submitted u →
      (a.reap.run ms).tasks[u]? = (b.run ms).tasks[u]? ∧
        (a.reap.run ms).eventsOf u = (b.run ms).eventsOf u := by
  obtain ⟨s, hb, hs⟩ := h.isAttempting
  have hreap : Parted t a.reap b.reap :=
    Parted.reap (ha.stretch h.stretch) (.out h.agree h.broken hb hs)
  rw [reap_of_keepsProxy hb (keepsProxy_of_isAttempting hs)] at hreap
  have hrun := hreap.run ((ha.stretch h.stretch).stretches reap_leads.stretches) hms
  exact ⟨hrun.agree, fun u hu hsub => hrun.same hu hsub⟩

end Proxy

end ResilientProxy
