import ResilientProxy.Proofs.History
import ResilientProxy.Proofs.Slot

/-!
# Where events come from

What happens in a task happens in one of its turns. So a statement about an event of the history is
a statement about the turn that it comes from, and about the state in which that turn was taken.
-/

namespace ResilientProxy.Proxy

variable {p : Proxy} {t : TaskId} {x : Happening} {later earlier : List Event} {time : Nat}

/-- Apart from its submission, what happens in a task comes from a turn of it; the rest of that turn
is next to it in the history. -/
theorem Attainable.origin (h : p.Attainable) (hx : ∀ job, x ≠ .submitted job)
    (hh : p.history = later ++ ⟨time, some t, x⟩ :: earlier) :
    ∃ (q r : Proxy) (s s' : Stage) (es₁ es₂ : List Happening) (rest : List Event),
      q.Attainable ∧ q.now = time ∧ q.At t s ∧ q.Turn t s s' (es₁ ++ x :: es₂) r ∧
      (r.goOn t s' (es₁ ++ x :: es₂)).Stretches p ∧
      earlier = es₂.map (⟨time, some t, ·⟩) ++ q.history ∧
      later = rest ++ es₁.map (⟨time, some t, ·⟩) := by
  obtain ⟨start, hf, hs⟩ := h
  induction hs generalizing later with
  | refl => simp [hf.history] at hh
  | @tail p p' hs hstretch ih =>
    -- what the last stretch adds to the history either has the event, or comes after it
    obtain ⟨new, hnew, hlast⟩ : ∃ new, p'.history = new ++ p.history ∧
        ∀ as bs, new = as ++ ⟨time, some t, x⟩ :: bs →
          ∃ (q : Proxy) (s s' : Stage) (es : List Happening), p.now = time ∧ p.At t s ∧
            p.Turn t s s' es q ∧ p' = q.goOn t s' es ∧ new = es.map (⟨time, some t, ·⟩) := by
      cases hstretch.effect with
      | @submitted job =>
        refine ⟨[_], rfl, fun as bs heq => ?_⟩
        have hm : ⟨time, some t, x⟩ ∈ [Event.mk p.now (some p.tasks.length) (.submitted job)] := by
          simp [heq]
        simp [hx job] at hm
      | ticked => exact ⟨[], rfl, by simp⟩
      | aside ha =>
        obtain ⟨new, hnew, hall⟩ := ha.history
        refine ⟨new, hnew, fun as bs heq => ?_⟩
        have hnone := (hall ⟨time, some t, x⟩ (by simp [heq])).2.1
        simp at hnone
      | @turned q u s s' es ht hturn =>
        have hf' := hturn.frame
        refine ⟨es.map (⟨p.now, some u, ·⟩), by rw [goOn_history, hf'.now, hf'.history], ?_⟩
        intro as bs heq
        have hm : ⟨time, some t, x⟩ ∈ es.map (⟨p.now, some u, ·⟩ : Happening → Event) := by
          simp [heq]
        obtain ⟨y, -, hy⟩ := List.mem_map.mp hm
        cases hy
        exact ⟨q, s, s', es, rfl, ht, hturn, rfl, rfl⟩
    obtain ⟨mid, rfl, hold⟩ | ⟨mid, hmid, rfl⟩ := cases_of_append (hnew.symm.trans hh)
    · obtain ⟨q, r, s, s', es₁, es₂, rest, hq, hn, ht, hturn, hp, he, rfl⟩ := ih hold
      exact ⟨q, r, s, s', es₁, es₂, new ++ rest, hq, hn, ht, hturn, hp.tail hstretch, he, by simp⟩
    · obtain ⟨r, s, s', es, hn, ht, hturn, rfl, rfl⟩ := hlast _ _ hmid
      obtain ⟨es₁, es', rfl, rfl, hes⟩ := List.map_eq_append_iff.mp hmid
      obtain ⟨y, es₂, rfl, hy, rfl⟩ := List.map_eq_cons_iff.mp hes
      cases hy
      exact ⟨p, r, s, s', es₁, es₂, [], ⟨start, hf, hs⟩, hn, ht, hturn, .refl, rfl, rfl⟩

/-- What cannot happen outside of all tasks belongs to one. -/
theorem Attainable.exists_task (h : p.Attainable) {e : Event} (he : e ∈ p.history)
    (hx : e.what.isAside = false) : ∃ t, e.task = some t := by
  revert e
  refine h.induct (I := fun p => ∀ {e : Event}, e ∈ p.history → e.what.isAside = false →
    ∃ t, e.task = some t) (fun q hq e he => ?_) fun q q' _ hi hs e he hx => ?_
  · simp [hq.history] at he
  · cases hs.effect with
    | submitted =>
      cases he with
      | head => exact ⟨_, rfl⟩
      | tail _ he => exact hi he hx
    | ticked => exact hi he hx
    | aside ha =>
      obtain ⟨new, hh, hnew⟩ := ha.history
      rw [hh, List.mem_append] at he
      cases he with
      | inl he => simp [(hnew e he).2.2] at hx
      | inr he => exact hi he hx
    | turned _ hturn =>
      rw [goOn_history, hturn.frame.history, List.mem_append] at he
      cases he with
      | inl he =>
        obtain ⟨x, -, rfl⟩ := List.mem_map.mp he
        exact ⟨_, rfl⟩
      | inr he => exact hi he hx

end ResilientProxy.Proxy
