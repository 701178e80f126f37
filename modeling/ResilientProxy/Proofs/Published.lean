import ResilientProxy.Proofs.Operation

/-!
# The published state

The published state is the state in the slot. Unless an operation is under way, an empty slot is in
state closed; and as long as one is, the state stays what the operation found at its beginning. So
whoever asks for the state, at whatever moment, is told one from before or after an operation.

The end of the runtime frees the lock under an operation. If that has taken the connection out of
the slot by then, the slot goes on saying what the operation found, with no connection behind it,
until somebody asks for the state. A proxy whose last reference is gone has nobody to ask.
-/

namespace ResilientProxy

/-- Whether a task at this stage has taken the connection out of a slot that still says what state
it was in. -/
def Stage.hollows : Stage → Bool
  | .replacing .. | .draining .. => true
  | _ => false

theorem Stage.operation_of_hollows {s : Stage} (h : s.hollows = true) :
    ∃ goal, s.operation = some goal := by
  cases s with
  | replacing | draining => exact ⟨_, rfl⟩
  | _ => exact nomatch h

theorem Stage.isFinished_of_hollows {s : Stage} (h : s.hollows = true) : s.isFinished = false := by
  cases s with
  | replacing | draining => rfl
  | _ => exact nomatch h

namespace Proxy

variable {p q : Proxy} {t : TaskId} {s s' : Stage} {es : List Happening}

/-- What is published is the state in the slot. -/
def Published (p : Proxy) : Prop := p.published = p.slot.state.toByte

theorem Turn.published (h : p.Turn t s s' es q) (hp : p.Published) : q.Published := by
  cases h with
  | foundOpen | foundFaulted | foundClosed | foundEmpty | connected | replaced | closeStarted
  | stoppedClosed | stoppedEmpty | abortStarted | abortedEmpty | drained => rfl
  | _ => exact hp

theorem Reaping.published (h : p.Reaping q) (hp : p.Published) : q.Published := by
  cases h with
  | kept => exact hp
  | dropped _ _ hd => cases hd <;> exact hp

theorem Stretch.published (h : p.Stretch q) (hp : p.Published) : q.Published := by
  cases h with
  | turned ht hturn => exact hturn.published hp
  | observed | observedEmpty => rfl
  | dropped hu hd hdrop => exact Reaping.published (.dropped hu hd hdrop) hp
  | halted hq =>
    have hreaped := hq.published hp
    exact hreaped
  | _ => exact hp

theorem Attainable.published (h : p.Attainable) : p.Published :=
  h.induct (fun q hq => by simp [Published, hq.slot, hq.published]) fun _ _ _ hi hs =>
    hs.published hi

/-- What a turn that leaves the slot empty has to say about its state. -/
theorem Turn.hollows (h : p.Turn t s s' es q) (hc : q.slot.handle = none) :
    q.slot.state = .closed ∨ s'.hollows = true ∨ (q.slot = p.slot ∧ s.hollows = false) := by
  cases h with
  | foundOpen | foundFaulted | abortStarted | connected | replaced => exact nomatch hc
  | foundClosed | foundEmpty | stoppedClosed | stoppedEmpty | abortedEmpty | drained =>
    exact .inl rfl
  | connectedOver | closeStarted | aborted => exact .inr (.inl rfl)
  | _ => exact .inr (.inr ⟨rfl, rfl⟩)

/-- The runtime ended under an operation that had taken the connection out of the slot, which still
says what state the operation found it in. -/
structure Interrupted (p : Proxy) : Prop where
  halted : p.running = false
  emptied : p.slot.handle = none
  found : ∃ t o, underWay t p.history = some o ∧ o.found = p.slot.state

/-- An empty slot is in state closed, unless an operation has just emptied it, or had when the
runtime ended. -/
def Hollow (p : Proxy) : Prop :=
  p.dropped = false → p.slot.handle = none → p.slot.state = .closed ∨
    (∃ t s, p.At t s ∧ s.hollows = true) ∨ p.Interrupted

theorem Hollow.turn (h : p.Hollow) (hset : p.Settled) (ht : p.At t s)
    (hturn : p.Turn t s s' es q) : (q.goOn t s' es).Hollow := by
  have hf := hturn.frame
  intro hd hc
  rw [goOn_dropped, hf.dropped] at hd
  rw [goOn_slot] at hc ⊢
  obtain hs | hs | ⟨hslot, hs⟩ := hturn.hollows hc
  · exact .inl hs
  · exact .inr (.inl ⟨t, s', ht.goOn hf.tasks, hs⟩)
  · rw [hslot] at hc ⊢
    obtain hstate | ⟨u, r, hu, hr⟩ | ⟨hr, -, -⟩ := h hd hc
    · exact .inl hstate
    · have hne : u ≠ t := by
        rintro rfl
        obtain rfl := hu.unique ht
        simp [hr] at hs
      exact .inr (.inl ⟨u, r, (at_goOn ht hf.tasks).mpr (.inr ⟨hne, hu⟩), hr⟩)
    · exact nomatch hr.symm.trans (hset.runs ht hturn.unfinished)

/-- As long as there is a runtime, a task that has emptied the slot has an operation under way, and
the slot says what that found. -/
theorem Tracked.exists_underWay (h : p.Tracked) (hr : p.running = true) (ht : p.At t s)
    (hs : s.hollows = true) : ∃ o, underWay t p.history = some o ∧ o.found = p.slot.state := by
  obtain ⟨goal, hgoal⟩ := Stage.operation_of_hollows hs
  obtain ⟨hcarries, hfound⟩ := h hr t s ht
  cases ho : underWay t p.history with
  | none => simp [ho, hgoal] at hcarries
  | some o => exact ⟨o, rfl, hfound o ho⟩

/-- When the runtime ends, what is under way stays so. -/
theorem Hollow.halted (h : p.Hollow) (hset : p.Settled) (htr : p.Tracked)
    (hq : p.cutOff.Reaping q) : Hollow { q.cutOff with running := false } := by
  have haside := halted_aside hq
  cases hq with
  | kept =>
    intro hd hc
    obtain hstate | ⟨t, s, ht, hs⟩ | ⟨-, -, t, o, ho, hfound⟩ := h hd hc
    · exact .inl hstate
    · have hr := hset.runs ht (Stage.isFinished_of_hollows hs)
      obtain ⟨o, ho, hfound⟩ := htr.exists_underWay hr ht hs
      exact .inr (.inr ⟨rfl, hc, t, o, by rwa [haside.underWay], hfound⟩)
    · exact .inr (.inr ⟨rfl, hc, t, o, by rwa [haside.underWay], hfound⟩)
  | dropped _ _ hdrop =>
    exact fun hd => absurd (hd.symm.trans hdrop.dropped) Bool.false_ne_true

theorem Hollow.of_same (h : p.Hollow) (hd : q.dropped = p.dropped) (hs : q.slot = p.slot)
    (ht : ∀ t s, p.At t s → q.At t s) (hr : q.running = p.running)
    (hu : ∀ t, underWay t q.history = underWay t p.history) : q.Hollow := by
  intro hdrop hc
  obtain hstate | ⟨t, s, hat, hhol⟩ | ⟨hrun, hempty, t, o, ho, hfound⟩ := h (hd ▸ hdrop) (hs ▸ hc)
  · exact .inl (hs ▸ hstate)
  · exact .inr (.inl ⟨t, s, ht t s hat, hhol⟩)
  · exact .inr (.inr ⟨hr.trans hrun, hc, t, o, by rwa [hu], by rwa [hs]⟩)

theorem Stretch.hollow (hs : p.Stretch q) (h : p.Hollow) (hset : p.Settled) (htr : p.Tracked) :
    q.Hollow := by
  cases hs with
  | submitted =>
    refine h.of_same rfl rfl (fun _ _ ht => ht.append rfl) rfl fun t => ?_
    rw [underWay]
    split <;> rfl
  | turned ht hturn => exact h.turn hset ht hturn
  | observed => exact fun _ hnone => absurd hnone (Option.some_ne_none _)
  | observedEmpty => exact fun _ _ => .inl rfl
  | dropped _ _ hdrop =>
    exact fun hd => absurd (hd.symm.trans hdrop.dropped) Bool.false_ne_true
  | halted hq => exact h.halted hset htr hq
  | _ => exact h.of_same rfl rfl (fun _ _ => id) rfl fun _ => rfl

theorem Attainable.hollow (h : p.Attainable) : p.Hollow :=
  h.induct (fun q hq _ _ => .inl (by rw [hq.slot])) fun _ _ hq hi hs =>
    hs.hollow hi hq.settled hq.tracked

/-- As long as there is a runtime, who has an operation under way owns the lock. -/
theorem Attainable.owner_of_underWay (h : p.Attainable) (hr : p.running = true) {o : Operation}
    (ho : underWay t p.history = some o) : p.lock.owner = some t := by
  have hne : underWay t p.history ≠ none := by simp [ho]
  rw [ne_eq, h.underWay_eq_none_iff hr, not_not] at hne
  exact Orderly.holder h.inOrder t hne

/-- A slot without a connection is closed, unless the operation is still under way that emptied it:
its task owns the lock, or the runtime ended under it. -/
theorem Attainable.empty (h : p.Attainable) (hd : p.dropped = false)
    (hc : p.slot.handle = none) : p.slot.state = .closed ∨ ∃ t o,
      underWay t p.history = some o ∧ o.found = p.slot.state ∧
        (p.lock.owner = some t ∨ p.running = false) := by
  obtain hstate | ⟨t, s, ht, hhol⟩ | ⟨hr, -, t, o, ho, hfound⟩ := h.hollow hd hc
  · exact .inl hstate
  · have hr := h.settled.runs ht (Stage.isFinished_of_hollows hhol)
    obtain ⟨o, ho, hfound⟩ := h.tracked.exists_underWay hr ht hhol
    exact .inr ⟨t, o, ho, hfound, .inl (h.owner_of_underWay hr ho)⟩
  · exact .inr ⟨t, o, ho, hfound, .inr hr⟩

theorem publishedState_eq (h : p.Published) : p.publishedState = p.slot.state := by
  rw [publishedState, h, ConnState.ofByte_toByte]

end Proxy

end ResilientProxy
