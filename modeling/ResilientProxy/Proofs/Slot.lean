import ResilientProxy.Proofs.Lock

/-!
# What the slot holds

While a task is at work under the lock, the slot holds what that task left in it. After the last
reference is gone the slot is empty, and no task but the teardown is left.
-/

namespace ResilientProxy

/-- What a task at this stage knows about the slot. -/
def Stage.Fits : Stage → Slot → Prop
  | .replacing .., slot | .draining .., slot => slot.handle = none
  | .aborting conn, slot => slot.handle = some conn
  | _, _ => True

/-- Whether a task at this stage shuts the connection of a dropped proxy down. -/
def Stage.tearsDown : Stage → Bool
  | .teardownQueued .. | .teardownAborting _ | .teardownClosing _ => true
  | _ => false

theorem Stage.fits_of_grip {s : Stage} (h : s.grip ≠ .holding) (slot : Slot) : s.Fits slot := by
  cases s <;> first | exact trivial | exact absurd rfl h

namespace Proxy

variable {p q : Proxy} {t u : TaskId} {s s' : Stage} {es : List Happening}

/-- The slot and the references fit where the tasks stand. -/
structure Settled (p : Proxy) : Prop where
  fits : ∀ t s, p.At t s → s.Fits p.slot
  unowned : p.dropped = true → p.owned = false
  emptied : p.dropped = true → p.slot.handle = none
  left : p.dropped = true → ∀ t s, p.At t s → s.keepsProxy = false
  untorn : p.dropped = false → ∀ t s, p.At t s → s.tearsDown = false
  tornByOne : ∀ t u s s', p.At t s → p.At u s' → s.tearsDown = true → s'.tearsDown = true → t = u
  halted : p.running = false → ∀ t s, p.At t s → s.isFinished = true

/-- As long as a task is not at its end, there is a runtime. -/
theorem Settled.runs (h : p.Settled) (ht : p.At t s) (hs : s.isFinished = false) :
    p.running = true := by
  by_contra hr
  have hfin := h.halted (by simpa using hr) t s ht
  exact Bool.false_ne_true (hs.symm.trans hfin)

theorem Turn.fits (h : p.Turn t s s' es q) : s'.Fits q.slot := by
  cases h with
  | foundOpen _ _ _ hx | connected _ hx | replaced _ _ hx | connectFailed _ hx =>
    cases hx <;> trivial
  | _ => trivial

/-- Only a task that has the lock changes the slot. -/
theorem Turn.slot (h : p.Turn t s s' es q) :
    q.slot = p.slot ∨ p.lock.owner = some t ∨ s.grip = .holding := by
  cases h with
  | foundOpen hl | foundFaulted hl | foundClosed hl | foundEmpty hl | closeStarted hl
  | stoppedClosed hl | stoppedEmpty hl | abortStarted hl => exact .inr (.inl hl)
  | connected | connectedOver | replaced | aborted | abortedEmpty | drained =>
    exact .inr (.inr rfl)
  | _ => exact .inl rfl

/-- While a task is at work under the lock, the turns of others leave the slot alone. -/
theorem Turn.slot_eq {r : Stage} (h : p.Turn t s s' es q) (ho : p.InOrder) (ht : p.At t s)
    (hu : p.At u r) (hne : u ≠ t) (hg : r.grip = .holding) : q.slot = p.slot := by
  obtain hs | hs | hs := h.slot
  · exact hs
  · have hou : p.lock.owner = some u := Orderly.holder ho u (hu.grip.trans hg)
    exact absurd (Option.some.inj (hou.symm.trans hs)) hne
  · exact absurd (Orderly.holder_unique ho (hu.grip.trans hg) (ht.grip.trans hs)) hne

/-- A task that has ended takes no more turns. -/
theorem Turn.unfinished (h : p.Turn t s s' es q) : s.isFinished = false := by
  cases h <;> rfl

theorem Turn.tearsDown (h : p.Turn t s s' es q) (hs : s'.tearsDown = true) :
    s.tearsDown = true := by
  cases h with
  | foundOpen _ _ _ hx | connected _ hx | replaced _ _ hx | connectFailed _ hx =>
    cases hx <;> exact hs
  | _ => first | exact hs | rfl

theorem Turn.keepsProxy (h : p.Turn t s s' es q) (hs : s.keepsProxy = false) :
    s.tearsDown = true ∧ s'.keepsProxy = false ∧ q.slot = p.slot := by
  cases h with
  | teardownAborts | teardownCloses | teardownAborted | teardownClosed => exact ⟨rfl, rfl, rfl⟩
  | _ => exact nomatch hs

theorem keepsProxy_of_isFinished (h : s.isFinished = true) : s.keepsProxy = false := by
  cases s <;> first | rfl | exact nomatch h

theorem tearsDown_of_isFinished (h : s.isFinished = true) : s.tearsDown = false := by
  cases s <;> first | rfl | exact nomatch h

theorem grip_of_keepsProxy (h : s.keepsProxy = false) : s.grip = .off := by
  cases s <;> first | rfl | exact nomatch h

theorem Settled.of_fresh (h : p.Fresh) : p.Settled := by
  have hn : ∀ t s, ¬ p.At t s := by simp [At, h.tasks]
  have hd : p.dropped ≠ true := by simp [h.dropped]
  have hr : p.running ≠ false := by simp [h.running]
  exact ⟨fun t s hs => absurd hs (hn t s), fun hp => absurd hp hd, fun hp => absurd hp hd,
    fun hp => absurd hp hd, fun _ t s hs => absurd hs (hn t s),
    fun t u s s' hs => absurd hs (hn t s), fun hp => absurd hp hr⟩

/-- When the lock is free, nobody knows anything about the slot. -/
theorem InOrder.fits_of_free (h : p.InOrder) (hl : p.lock.owner = none) (ht : p.At t s)
    (slot : Slot) : s.Fits slot := by
  have hg : p.grip t = .off := Orderly.off_of_free h hl t
  rw [ht.grip] at hg
  exact Stage.fits_of_grip (by simp [hg]) slot

theorem Settled.turn (h : p.Settled) (ho : p.InOrder) (ht : p.At t s)
    (hturn : p.Turn t s s' es q) : (q.goOn t s' es).Settled := by
  have hf := hturn.frame
  refine ⟨fun u r hu => ?_, fun hd => ?_, fun hd => ?_, fun hd u r hu => ?_, fun hd u r hu => ?_,
    fun u v r r' hu hv hr hr' => ?_, fun hr u r hu => ?_⟩
  · obtain ⟨-, rfl⟩ | ⟨hne, hu⟩ := (at_goOn ht hf.tasks).mp hu
    · exact hturn.fits
    · by_cases hg : r.grip = .holding
      · rw [goOn_slot, hturn.slot_eq ho ht hu hne hg]
        exact h.fits u r hu
      · exact Stage.fits_of_grip hg _
  · rw [goOn_dropped, hf.dropped] at hd
    rw [goOn_owned, hf.owned]
    exact h.unowned hd
  · rw [goOn_dropped, hf.dropped] at hd
    have hk := hturn.keepsProxy (h.left hd t s ht)
    rw [goOn_slot, hk.2.2]
    exact h.emptied hd
  · rw [goOn_dropped, hf.dropped] at hd
    obtain ⟨-, rfl⟩ | ⟨-, hu⟩ := (at_goOn ht hf.tasks).mp hu
    · exact (hturn.keepsProxy (h.left hd t s ht)).2.1
    · exact h.left hd u r hu
  · rw [goOn_dropped, hf.dropped] at hd
    obtain ⟨-, rfl⟩ | ⟨-, hu⟩ := (at_goOn ht hf.tasks).mp hu
    · by_contra hs
      have hs' := hturn.tearsDown (by simpa using hs)
      simp [h.untorn hd t s ht] at hs'
    · exact h.untorn hd u r hu
  · have back : ∀ w x, (q.goOn t s' es).At w x → x.tearsDown = true →
        ∃ y, p.At w y ∧ y.tearsDown = true := by
      intro w x hw hx
      obtain ⟨rfl, rfl⟩ | ⟨-, hw⟩ := (at_goOn ht hf.tasks).mp hw
      · exact ⟨s, ht, hturn.tearsDown hx⟩
      · exact ⟨x, hw, hx⟩
    obtain ⟨y, hy, hyt⟩ := back u r hu hr
    obtain ⟨z, hz, hzt⟩ := back v r' hv hr'
    exact h.tornByOne u v y z hy hz hyt hzt
  · rw [goOn_running, hf.running] at hr
    have hs := h.halted hr t s ht
    simp [hturn.unfinished] at hs

theorem Settled.dropping (h : p.Settled) (hu : p.unreferenced = true) (hd : p.dropped = false)
    (hdrop : p.Dropping q) : q.Settled := by
  have hk : ∀ t s, p.At t s → s.keepsProxy = false := fun t s => keepsProxy_of_unreferenced hu
  have hfit : ∀ t s slot, p.At t s → s.Fits slot := fun t s slot ht =>
    Stage.fits_of_grip (by simp [grip_of_keepsProxy (hk t s ht)]) slot
  have hown : p.owned = false := owned_of_unreferenced hu
  have huntorn := h.untorn hd
  cases hdrop with
  | empty hc =>
    exact ⟨h.fits, fun _ => hown, fun _ => hc, fun _ => hk,
      fun hd => absurd hd.symm Bool.false_ne_true, h.tornByOne, h.halted⟩
  | closed hc | outside hc =>
    exact ⟨fun t s => hfit t s _, fun _ => hown, fun _ => rfl, fun _ => hk,
      fun hd => absurd hd.symm Bool.false_ne_true, h.tornByOne, h.halted⟩
  | @running conn hc hs hr =>
    -- the teardown is the first task of its kind
    refine ⟨fun t s ht => ?_, fun _ => hown, fun _ => rfl, fun _ t s ht => ?_,
      fun hd => absurd hd.symm Bool.false_ne_true, fun t u s s' ht hu hs hs' => ?_, fun hh => ?_⟩
    · obtain ht | ⟨-, rfl⟩ := at_append rfl ht
      · exact hfit t s _ ht
      · trivial
    · obtain ht | ⟨-, rfl⟩ := at_append rfl ht
      · exact hk t s ht
      · rfl
    · obtain ht | ⟨ht, -⟩ := at_append rfl ht
      · simp [huntorn t s ht] at hs
      · obtain hu | ⟨hu, -⟩ := at_append rfl hu
        · simp [huntorn u s' hu] at hs'
        · rw [ht, hu]
    · simp [hr] at hh

theorem Settled.cutOff (h : p.Settled) : p.cutOff.Settled where
  fits _ _ ht := Stage.fits_of_grip
    (by simp [grip_of_keepsProxy (keepsProxy_of_isFinished (isFinished_of_cutOff ht))]) _
  unowned := h.unowned
  emptied := h.emptied
  left _ _ _ ht := keepsProxy_of_isFinished (isFinished_of_cutOff ht)
  untorn _ _ _ ht := tearsDown_of_isFinished (isFinished_of_cutOff ht)
  tornByOne _ _ _ _ ht _ hs _ := by simp [tearsDown_of_isFinished (isFinished_of_cutOff ht)] at hs
  halted _ _ _ ht := isFinished_of_cutOff ht

theorem Settled.reaping (h : p.Settled) (hq : p.Reaping q) : q.Settled := by
  cases hq with
  | kept => exact h
  | dropped hu hd hdrop => exact h.dropping hu hd hdrop

theorem Settled.stretch (h : p.Settled) (ho : p.InOrder) (hs : p.Stretch q) : q.Settled := by
  cases hs with
  | submitted how hr =>
    have hd : p.dropped ≠ true := fun hd => by simp [h.unowned hd] at how
    refine ⟨fun t s ht => ?_, fun hp => absurd hp hd, fun hp => absurd hp hd,
      fun hp => absurd hp hd, fun hp t s ht => ?_, fun t u s s' ht hu hs hs' => ?_,
      fun hp => by simp [hr] at hp⟩
    · obtain ht | ⟨-, rfl⟩ := at_append rfl ht
      · exact h.fits t s ht
      · trivial
    · obtain ht | ⟨-, rfl⟩ := at_append rfl ht
      · exact h.untorn hp t s ht
      · rfl
    · obtain ht | ⟨-, rfl⟩ := at_append rfl ht
      · obtain hu | ⟨-, rfl⟩ := at_append rfl hu
        · exact h.tornByOne t u s s' ht hu hs hs'
        · exact nomatch hs'
      · exact nomatch hs
  | turned ht hturn => exact h.turn ho ht hturn
  | observed how hl hc =>
    exact ⟨fun t s ht => ho.fits_of_free hl ht _, h.unowned,
      fun hd => absurd (h.unowned hd) (by simp [how]), h.left, h.untorn, h.tornByOne, h.halted⟩
  | observedEmpty how hl hc =>
    exact ⟨fun t s ht => ho.fits_of_free hl ht _, h.unowned, fun _ => rfl, h.left, h.untorn,
      h.tornByOne, h.halted⟩
  | dropped hu hd hdrop => exact h.dropping hu hd hdrop
  | halted hq =>
    have hc := (h.cutOff.reaping hq).cutOff
    exact ⟨hc.fits, hc.unowned, hc.emptied, hc.left, hc.untorn, hc.tornByOne,
      fun _ _ _ ht => isFinished_of_cutOff ht⟩
  | disowned => exact ⟨h.fits, fun _ => rfl, h.emptied, h.left, h.untorn, h.tornByOne, h.halted⟩
  | _ => exact ⟨h.fits, h.unowned, h.emptied, h.left, h.untorn, h.tornByOne, h.halted⟩

/-- A task at work under the lock has the slot to itself: it stays as it is until the next turn of
the task, or the end of the runtime. -/
theorem Stretch.slot_eq (hs : p.Stretch q) (ho : p.InOrder) (ht : p.At t s)
    (hg : s.grip = .holding) : q.slot = p.slot ∨
      (∃ r s' es, p.Turn t s s' es r ∧ q = r.goOn t s' es) ∨
      ∀ u s', q.At u s' → s'.isFinished = true := by
  have howner : p.lock.owner = some t := Orderly.holder ho t (ht.grip.trans hg)
  cases hs with
  | @turned r u _ s' es hu hturn =>
    by_cases htu : t = u
    · subst htu
      obtain rfl := hu.unique ht
      exact .inr (.inl ⟨r, s', es, hturn, rfl⟩)
    · exact .inl (hturn.slot_eq ho hu ht htu hg)
  | observed _ hl | observedEmpty _ hl => exact nomatch howner.symm.trans hl
  | dropped hu =>
    -- the task has a reference to the proxy
    have hoff := grip_of_keepsProxy (keepsProxy_of_unreferenced hu ht)
    exact nomatch hoff.symm.trans hg
  | halted => exact .inr (.inr fun _ _ hat => isFinished_of_cutOff hat)
  | _ => exact .inl rfl

theorem Attainable.settled (h : p.Attainable) : p.Settled :=
  h.induct (fun _ hq => .of_fresh hq) fun _ _ hq hi hs => hi.stretch hq.inOrder hs

theorem Reachable.settled (h : p.Reachable) : p.Settled := h.attainable.settled

/-- What holds of fresh proxies and is preserved by every stretch from a state in order. -/
theorem Reachable.induct_settled {I : Proxy → Prop} (h : p.Reachable)
    (fresh : ∀ q, q.Fresh → I q)
    (stretch : ∀ q q', q.InOrder → q.Settled → I q → q.Stretch q' → I q') : I p :=
  h.attainable.induct fresh fun q q' hq => stretch q q' hq.inOrder hq.settled

end Proxy

end ResilientProxy
