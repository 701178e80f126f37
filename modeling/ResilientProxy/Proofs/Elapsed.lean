import ResilientProxy.Proofs.History
import ResilientProxy.Proofs.Slot

/-!
# How long a call took

A call that gives up tells for how long it has tried. The machine's clock is read twice for that: in
the first turn of the call's task, and in the turn in which the call gives up. In between, every
stage of the task carries what the first reading was.
-/

namespace ResilientProxy

/-- The call that an opening is done for. -/
def Opener.call? : Opener → Option Call
  | .owner => none
  | .call c => some c

/-- The call that a task at this stage carries on. -/
def Stage.call? : Stage → Option Call
  | .awaitingLock (.attempt c) | .attempting c .. | .callPause c _ => some c
  | .awaitingLock (.connect o) | .connecting o _ | .connectPause o .. | .replacing o .. => o.call?
  | _ => none

namespace Proxy

variable {start p q r : Proxy} {t : TaskId} {s s' : Stage} {es : List Happening} {c : Call}
  {e : CallError}

theorem Leaves.carriesOn {o : Opener} {result : Except ConnectionError OpenOutcome} {l : Lock}
    (h : p.Leaves t o result s es l) (hs : s.call? = some c) :
    ∃ c', o.call? = some c' ∧ c.retry.started = c'.retry.started := by
  cases h with
  | owner | failed => exact nomatch hs
  | reopened | alreadyOpen =>
    cases hs
    exact ⟨_, rfl, rfl⟩

/-- The first turn of a call reads the machine's clock, and the others leave it at that. -/
theorem Turn.carriesOn (h : p.Turn t s s' es q) (hs : s'.call? = some c) :
    (∃ job, s = .queued job ∧ c.retry.started = p.uptime) ∨
      ∃ c', s.call? = some c' ∧ c.retry.started = c'.retry.started := by
  cases h with
  | @began job =>
    cases job with
    | invoke =>
      cases hs
      exact .inl ⟨_, rfl, rfl⟩
    | _ => exact nomatch hs
  | foundOpen _ _ _ hx | connected _ hx | replaced _ _ hx | connectFailed _ hx =>
    exact .inr (hx.carriesOn hs)
  | paused =>
    cases hs
    exact .inr ⟨_, rfl, rfl⟩
  | foundFaulted | foundClosed | foundEmpty | connectedOver | connectPaused | connectBackedOff
  | connectAgain | attemptSent | allocated | arenaShort | lostConnection | backedOff =>
    exact .inr ⟨c, hs, rfl⟩
  | _ => exact nomatch hs

/-- The turn in which a call gives up reads the machine's clock again. -/
theorem Turn.elapsed (h : p.Turn t s s' es q) (hs : s' = .finished (.called (.error (.call e)))) :
    ∃ c, s.call? = some c ∧ e.elapsed = .between c.retry.started p.uptime := by
  cases h with
  | foundOpen _ _ _ hx | connected _ hx | replaced _ _ hx | connectFailed _ hx =>
    cases hx <;> exact nomatch hs
  | attemptedEmpty | failedForGood =>
    cases hs
    exact ⟨_, rfl, rfl⟩
  | _ => exact nomatch hs

/-- Task `t` took its first turn at `q`, on the way to `p`. -/
def Began (q p : Proxy) (t : TaskId) : Prop :=
  ∃ job s es r, q.At t (.queued job) ∧ q.Turn t (.queued job) s es r ∧ (r.goOn t s es).Stretches p

/-- Task `t` came to an end in its turn at `q`, on the way to `p`. -/
def Ended (q p : Proxy) (t : TaskId) : Prop :=
  ∃ s o es r, q.At t s ∧ q.Turn t s (.finished o) es r ∧ (r.goOn t (.finished o) es).Stretches p

theorem Began.stretch (h : q.Began p t) (hs : p.Stretch r) : q.Began r t := by
  obtain ⟨job, s, es, q', ht, hturn, hp⟩ := h
  exact ⟨job, s, es, q', ht, hturn, hp.tail hs⟩

theorem Ended.stretch (h : q.Ended p t) (hs : p.Stretch r) : q.Ended r t := by
  obtain ⟨s, o, es, q', ht, hturn, hp⟩ := h
  exact ⟨s, o, es, q', ht, hturn, hp.tail hs⟩

/-- How a task has come to stand at stage `s'` after a stretch. -/
inductive Comes (p q : Proxy) (t : TaskId) (s' : Stage) : Prop where
  | stayed (h : p.At t s')
  | turned {s : Stage} {es : List Happening} {r : Proxy} (ht : p.At t s) (h : p.Turn t s s' es r)
      (hq : q = r.goOn t s' es)
  /-- It is new. -/
  | queued {job : Job} (h : s' = .queued job)
  | teardown {conn : ConnId} {cs : ConnState} (h : s' = .teardownQueued conn cs)
  /-- The runtime ended. -/
  | vanished (h : s' = .finished .vanished)

theorem Reaping.comes (h : p.Reaping q) (ht : q.At t s) :
    p.At t s ∨ ∃ conn cs, s = .teardownQueued conn cs := by
  cases h with
  | kept => exact .inl ht
  | dropped _ _ hdrop =>
    cases hdrop with
    | running =>
      obtain ht | ⟨-, rfl⟩ := at_append rfl ht
      · exact .inl ht
      · exact .inr ⟨_, _, rfl⟩
    | _ => exact .inl ht

theorem comes_cutOff (ht : p.cutOff.At t s) : p.At t s ∨ s = .finished .vanished := by
  simp only [At, Proxy.cutOff, List.getElem?_map, Option.map_eq_some_iff] at ht
  obtain ⟨r, hr, rfl⟩ := ht
  split
  · exact .inl hr
  · exact .inr rfl

theorem Stretch.comes (h : p.Stretch q) (ht : q.At t s') : p.Comes q t s' := by
  cases h with
  | submitted =>
    obtain ht | ⟨-, rfl⟩ := at_append rfl ht
    · exact .stayed ht
    · exact .queued rfl
  | turned hu hturn =>
    obtain ⟨rfl, rfl⟩ | ⟨-, ht⟩ := (at_goOn hu hturn.frame.tasks).mp ht
    · exact .turned hu hturn rfl
    · exact .stayed ht
  | dropped hu hd hdrop =>
    obtain ht | ⟨conn, cs, rfl⟩ := Reaping.comes (.dropped hu hd hdrop) ht
    · exact .stayed ht
    · exact .teardown rfl
  | halted hq =>
    obtain ht | rfl := comes_cutOff ht
    · obtain ht | ⟨conn, cs, rfl⟩ := hq.comes ht
      · obtain ht | rfl := comes_cutOff ht
        · exact .stayed ht
        · exact .vanished rfl
      · exact .teardown rfl
    · exact .vanished rfl
  | _ => exact .stayed ht

/-- What a task at this stage knows of the readings of the machine's clock. -/
structure Clocked (start p : Proxy) (t : TaskId) (s : Stage) : Prop where
  started : ∀ c, s.call? = some c →
    ∃ q, start.Stretches q ∧ q.Began p t ∧ c.retry.started = q.uptime
  ended : ∀ e, s = .finished (.called (.error (.call e))) →
    ∃ q m, start.Stretches q ∧ q.Began m t ∧ m.Ended p t ∧
      e.elapsed = .between q.uptime m.uptime

theorem Clocked.stretch (h : start.Clocked p t s) (hs : p.Stretch q) : start.Clocked q t s where
  started c hc := by
    obtain ⟨m, hm, hbegan, hstarted⟩ := h.started c hc
    exact ⟨m, hm, hbegan.stretch hs, hstarted⟩
  ended e he := by
    obtain ⟨m, m', hm, hbegan, hended, helapsed⟩ := h.ended e he
    exact ⟨m, m', hm, hbegan, hended.stretch hs, helapsed⟩

theorem Clocked.turn (h : start.Clocked p t s) (hp : start.Stretches p) (ht : p.At t s)
    (hturn : p.Turn t s s' es r) : start.Clocked (r.goOn t s' es) t s' where
  started c hc := by
    obtain ⟨job, rfl, hstarted⟩ | ⟨c', hc', hstarted⟩ := hturn.carriesOn hc
    · exact ⟨p, hp, ⟨job, _, _, _, ht, hturn, .refl⟩, hstarted⟩
    · obtain ⟨q, hq, hbegan, huptime⟩ := h.started c' hc'
      exact ⟨q, hq, hbegan.stretch (.turned ht hturn), hstarted.trans huptime⟩
  ended e he := by
    obtain ⟨c, hc, helapsed⟩ := hturn.elapsed he
    obtain ⟨q, hq, hbegan, huptime⟩ := h.started c hc
    subst he
    exact ⟨q, p, hq, hbegan, ⟨s, _, _, _, ht, hturn, .refl⟩, huptime ▸ helapsed⟩

/-- A call that gave up tells the time between the two readings of the machine's clock. -/
theorem Stretches.clocked (h : start.Stretches p) (hs : start.tasks = []) (ht : p.At t s) :
    start.Clocked p t s := by
  induction h generalizing s with
  | refl => simp [At, hs] at ht
  | tail hp hstretch ih =>
    cases hstretch.comes ht with
    | stayed hat => exact (ih hat).stretch hstretch
    | turned hat hturn hq =>
      subst hq
      exact (ih hat).turn hp hat hturn
    | queued h | teardown h | vanished h =>
      subst h
      exact ⟨by simp [Stage.call?], by simp⟩

end Proxy

end ResilientProxy
