import Mathlib.Data.List.Induction
import ResilientProxy.Proofs.Operation
import ResilientProxy.Proofs.Ownership

/-!
# Attempts start on the connection in the slot

An attempt looks up the connection under the lock and calls the channel before anything else can
happen. So at that moment the connection is the one in the slot, closing it has not begun, and no
operation is under way that could take it out.
-/

namespace ResilientProxy.Proxy

variable {p q start : Proxy} {t : TaskId} {c : Call} {conn : ConnId} {later earlier : List Event}
  {e : Event}

theorem Leads.exists_invoke (h : p.Leads q) (hh : q.history = later ++ e :: earlier)
    (he : e.what.isInvoke = true) : ∃ mid, p.history = mid ++ e :: earlier := by
  obtain ⟨new, hnew, hno⟩ := h.silent
  obtain ⟨mid, -, hold⟩ | ⟨mid, hmid, -⟩ := cases_of_append (hnew.symm.trans hh)
  · exact ⟨mid, hold⟩
  · exact absurd (hno e (by simp [hmid])) (by simp [he])

/-- The attempt itself is the last that happens when it is handed over. -/
theorem handOver_invoke (hh : (p.handOver t c conn).history = later ++ e :: earlier)
    (he : e.what.isInvoke = true) :
    later = [] ∨ ∃ mid, p.history = mid ++ e :: earlier := by
  obtain ⟨mid, -, hold⟩ | ⟨mid, hmid, -⟩ := cases_of_append (goOn_history .. ▸ hh)
  · exact .inr ⟨mid, hold⟩
  · obtain ⟨es₁, es', hes, rfl, htail⟩ := List.map_eq_append_iff.mp hmid
    obtain ⟨x, es₂, rfl, rfl, -⟩ := List.map_eq_cons_iff.mp htail
    cases es₁ with
    | nil => exact .inl rfl
    | cons y es₁ =>
      have hx : x ∈ [Happening.lockReleased, .lookedUp (some conn), .lockTaken (.attempt c)] := by
        rw [(List.cons.inj hes).2]
        simp
      have hno : x.isInvoke = false := by
        simp only [List.mem_cons, List.not_mem_nil, or_false] at hx
        obtain rfl | rfl | rfl := hx <;> rfl
      simp [hno] at he

/-- Where an attempt was handed to the channel, a move of the run came to its end. -/
theorem exists_handOver (hs : start.history = []) {ms : List Move}
    (hh : (start.run ms).history = later ++ e :: earlier) (he : e.what.isInvoke = true) :
    ∃ (ms₁ ms₂ : List Move) (q : Proxy) (t : TaskId) (c : Call) (conn : ConnId),
      ms = ms₁ ++ ms₂ ∧ start.Stretches q ∧ q.CanSend t c conn ∧
        start.run ms₁ = q.handOver t c conn ∧ (start.run ms₁).history = e :: earlier := by
  induction ms using List.reverseRecOn generalizing later with
  | nil => simp [run, hs] at hh
  | append_singleton ms m ih =>
    have hrun : start.run (ms ++ [m]) = (start.run ms).step m := run_append ..
    -- either the attempt was there before the last move, or it is the end of that move
    have hcases : (∃ mid, (start.run ms).history = mid ++ e :: earlier) ∨
        ∃ q t c conn, start.Stretches q ∧ q.CanSend t c conn ∧
          start.run (ms ++ [m]) = q.handOver t c conn ∧ later = [] := by
      have hcourse := step_course (p := start.run ms) m
      rw [hrun] at hh ⊢
      generalize (start.run ms).step m = p' at hcourse hh ⊢
      cases hcourse with
      | leads h => exact .inl (h.exists_invoke hh he)
      | @sends q t c conn h hsend =>
        obtain hl | ⟨mid, hold⟩ := handOver_invoke hh he
        · exact .inr ⟨q, t, c, conn, (run_stretches ms).trans h.stretches, hsend, rfl, hl⟩
        · exact .inl (h.exists_invoke hold he)
    obtain ⟨mid, hold⟩ | ⟨q, t, c, conn, hq, hsend, heq, rfl⟩ := hcases
    · obtain ⟨ms₁, ms₂, q, t, c, conn, rfl, hrest⟩ := ih hold
      exact ⟨ms₁, ms₂ ++ [m], q, t, c, conn, List.append_assoc .., hrest⟩
    · exact ⟨ms ++ [m], [], q, t, c, conn, (List.append_nil _).symm, hq, hsend, heq, hh⟩

/-- Giving the lock back leaves nobody at work. -/
theorem CanSend.grip (h : p.CanSend t c conn) (ho : p.InOrder) (u : TaskId) :
    (p.handOver t c conn).grip u ≠ .holding := by
  intro hu
  rw [Proxy.grip, handOver, view_goOn (q := { p with lock := p.lock.pass }) h.waits rfl] at hu
  by_cases hut : u = t
  · simp [hut, Stage.grip] at hu
  · rw [Function.update_of_ne hut] at hu
    have hou : p.lock.owner = some u := Orderly.holder ho u hu
    exact hut (Option.some.inj (hou.symm.trans h.owner))

/-- An attempt starts on the connection that is in the slot at the end of its move. Closing that
connection has not begun, and every operation that got the lock has given it back. -/
theorem attempt_starts_on_slot {a : Address} {config : Config} {us : Draws} {clock : Clock}
    (hc : create a config us clock = .ok start) (ms : List Move) {time : Nat}
    {task : Option TaskId} {conn : ConnId} {capacity used : Nat} (hh : (start.run ms).history =
      later ++ ⟨time, task, .callStarted (.invoke conn capacity used)⟩ :: earlier) :
    (∀ e ∈ earlier, e.what ≠ .callStarted (.close conn)) ∧
    (∀ between x before u goal, earlier = between ++ x :: before → x.task = some u →
      x.what = .lockTaken goal → goal.isOperation = true →
      ∃ y ∈ between, y.task = some u ∧ y.what = .lockReleased) ∧
    ∃ ms₁ ms₂, ms = ms₁ ++ ms₂ ∧ (start.run ms₁).history =
        ⟨time, task, .callStarted (.invoke conn capacity used)⟩ :: earlier ∧
      (start.run ms₁).slot.handle = some conn ∧ ∀ u, (start.run ms₁).grip u ≠ .holding := by
  obtain ⟨ms₁, ms₂, q, t, c, conn', hms, hq, hsend, hrun, hhist⟩ :=
    exists_handOver (fresh_of_create hc).history hh rfl
  have hreach : (start.run ms₁).Reachable := ⟨a, config, us, clock, start, ms₁, hc, rfl⟩
  have hgrip : ∀ u, (start.run ms₁).grip u ≠ .holding := by
    rw [hrun]
    exact hsend.grip (Attainable.inOrder ⟨start, fresh_of_create hc, hq⟩)
  have hrunning : (start.run ms₁).running = true :=
    hreach.settled.runs (hrun ▸ hsend.attempting) rfl
  obtain rfl : conn' = conn := by
    have hhead : (q.handOver t c conn').history.head? =
        some ⟨q.now, some t, .callStarted (.invoke conn' c.arenaSize 0)⟩ := rfl
    rw [← hrun, hhist] at hhead
    have heq := Option.some.inj hhead
    simp only [Event.mk.injEq, Happening.callStarted.injEq, ChannelCall.invoke.injEq] at heq
    exact heq.2.2.1.symm
  have hslot : (start.run ms₁).slot.handle = some conn' := by
    rw [hrun]
    exact hsend.handle
  refine ⟨fun e he hclose => ?_, fun between x before u goal hsplit hxt hx hg => ?_,
    ms₁, ms₂, hms, hhist, hslot, hgrip⟩
  · have hm : .callStarted (.close conn') ∈ (start.run ms₁).happenings := by
      rw [happenings, hhist, ← hclose]
      exact List.mem_map_of_mem (List.mem_cons_of_mem _ he)
    exact hreach.accounted.not_disposed (.inl hslot) (mem_disposed hm rfl)
  · have hnone : underWay u (start.run ms₁).history = none :=
      (hreach.attainable.underWay_eq_none_iff hrunning).mpr (hgrip u)
    have hearlier : underWay u (between ++ x :: before) = none := by
      rw [← hsplit]
      rw [hhist, underWay] at hnone
      split at hnone <;> exact hnone
    exact exists_lockReleased hxt hx hg hearlier

/-- A call that was in line while a faulted connection was replaced uses the new one. -/
theorem attempt_starts_on_slot_after_replacing :
    let start := ofDefaults ⟨"svc", by decide⟩ []
    let ms := [Move.submit .connect, .resume 0 .turn, .resume 0 (.reply (.connected .opened)),
      .drift 0 .faulted, .submit .connect, .resume 1 .turn, .submit (.invoke "op" 8 "x"),
      .resume 2 .turn, .resume 1 (.reply (.connected .opened)), .resume 1 (.reply .done),
      .resume 2 .turn]
    ⟨0, some 1, .callStarted (.close 0)⟩ ∈ (start.run ms).history ∧
      (start.run ms).history.head? = some ⟨0, some 2, .callStarted (.invoke 1 8 0)⟩ ∧
      (∀ e ∈ (start.run ms).history.tail, e.what ≠ .callStarted (.close 1)) ∧
      ∃ ms₁ ms₂, ms = ms₁ ++ ms₂ ∧ (start.run ms₁).slot.handle = some 1 := by
  intro start ms
  have hc : create ⟨"svc", by decide⟩ .default [] .unbounded = .ok start := rfl
  have hh : (start.run ms).history = [] ++
      ⟨0, some 2, .callStarted (.invoke 1 8 0)⟩ :: (start.run ms).history.tail := by decide +kernel
  obtain ⟨hclose, -, ms₁, ms₂, hms, -, hslot, -⟩ := attempt_starts_on_slot hc ms hh
  exact ⟨by decide +kernel, by decide +kernel, hclose, ms₁, ms₂, hms, hslot⟩

end ResilientProxy.Proxy
