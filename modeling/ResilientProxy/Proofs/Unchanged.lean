import ResilientProxy.Proofs.TakingDown

/-!
# Failures change nothing

An opening that fails and an abort that is refused leave in the slot what they found there when
they got the lock, and nothing of it is closed. So a later close still closes that connection.
-/

namespace ResilientProxy

/-- Whether a task at this stage still tries to get a connection from the channel. -/
def Stage.tries : Stage → Bool
  | .connecting .. | .connectPause .. => true
  | _ => false

namespace Proxy

open Stopping

variable {p q r m : Proxy} {t u : TaskId} {o : Opener} {stop : Stop} {s s' : Stage}
  {ws es : List Happening}

/-- What was found in the slot is still there, and no connection was closed or aborted. -/
structure Spares (f : Finding) (slot : Slot) (ws : List Happening) : Prop where
  notOpen : f.isOpen = false
  slot : slot = f.refreshed
  calls : ∀ call ∈ ws.filterMap Happening.started, call = .connect

theorem Leaves.not_openingEnded {result : Except ConnectionError OpenOutcome} {l : Lock}
    (h : p.Leaves t o result s es l) (result' : Except ConnectionError OpenOutcome) :
    .openingEnded result' ∉ es := by
  cases h <;> simp

theorem Leaves.tries {result : Except ConnectionError OpenOutcome} {l : Lock}
    (h : p.Leaves t o result s es l) : s.tries = false := by
  cases h <;> rfl

theorem Leaves.pending {result : Except ConnectionError OpenOutcome} {l : Lock}
    (h : p.Leaves t o result s es l) : s.pending = none := by
  cases h <;> rfl

/-- Whoever has started a call in a turn waits for its end. -/
theorem Turn.pending (h : p.Turn t s s' es q) {call : ChannelCall}
    (hm : call ∈ es.filterMap Happening.started) : s'.pending = some call := by
  have hcalls := h.calls
  cases hcalls with
  | nothing hno => simp [hno] at hm
  | @starts call' es' hno hs =>
    have hcall : Happening.started (.callStarted call') = some call' := rfl
    rw [List.filterMap_cons_some hcall, hno, List.mem_singleton] at hm
    rw [hs, hm]

/-- As long as an opening tries, and when it fails, its turns touch nothing. -/
theorem Turn.spares (h : p.Turn t s s' es q) (hs : s.tries = true)
    (hs' : s'.tries = true ∨ ∃ e, .openingEnded (.error e) ∈ es) :
    q.slot = p.slot ∧ ∀ call ∈ es.filterMap Happening.started, call = .connect := by
  have hcalls : ∀ call ∈ es.filterMap Happening.started, s'.pending = some call := fun _ hm =>
    h.pending hm
  cases h with
  | connectFailed _ hx => exact ⟨rfl, fun call hm => nomatch hx.pending.symm.trans (hcalls call hm)⟩
  | connectPaused | connectBackedOff => exact ⟨rfl, fun call hm => nomatch hcalls call hm⟩
  | connectAgain => exact ⟨rfl, fun call hm => (Option.some.inj (hcalls call hm)).symm⟩
  | @connected _ r _ _ _ _ _ hx =>
    have hnotes : ∀ e, .openingEnded (.error e) ∉ p.installNotes r := fun e =>
      (p.noted_installNotes r).not_mem nofun
    simp [hx.tries, hx.not_openingEnded, hnotes] at hs'
  | connectedOver => simp [Stage.tries] at hs'
  | _ => exact nomatch hs

/-- Once the channel has given a connection, the opening succeeds. -/
theorem Turn.succeeds (h : p.Turn t s s' es q) (hg : s.grip = .holding) (hs : s.tries = false) :
    s'.tries = false ∧ ∀ e, .openingEnded (.error e) ∉ es := by
  have hnote : ∀ {ns : List Happening}, Noted ns → ∀ e, .openingEnded (.error e) ∉ ns := fun hn e =>
    hn.not_mem nofun
  cases h with
  | replaced he hn hx =>
    refine ⟨hx.tries, fun e => ?_⟩
    cases he <;> simp [hx.not_openingEnded, hnote (p.noted_installNotes _),
      hnote (p.noted_staleNotes _), hnote hn.noted]
  | drained he hn =>
    refine ⟨rfl, fun e => ?_⟩
    cases he <;> simp [hnote (p.noted_stopNotes _ _), hnote hn.noted]
  | aborted | abortedEmpty | abortRefused => exact ⟨rfl, by simp⟩
  | connected | connectedOver | connectFailed | connectPaused | connectBackedOff | connectAgain =>
    exact nomatch hs
  | _ => exact nomatch hg

/-- An opening looks at the slot first; it goes on to try only if the connection is not open. -/
theorem Turn.spares_lockTaken
    (h : p.Turn t (.awaitingLock (.connect o)) s' (es ++ [.lockTaken (.connect o)]) q)
    (hs' : s'.tries = true ∨ ∃ e, .openingEnded (.error e) ∈ es) :
    Spares p.finding q.slot es.reverse := by
  have hcalls : ∀ call ∈ es.reverse.filterMap Happening.started, s'.pending = some call := by
    intro call hm
    rw [List.filterMap_reverse, List.mem_reverse] at hm
    exact h.pending (by simp [hm])
  generalize hs : Stage.awaitingLock (.connect o) = s at h
  generalize hes : es ++ [.lockTaken (.connect o)] = es' at h
  cases h with
  | @foundOpen _ conn _ rest _ _ _ _ hx =>
    obtain rfl : es = rest ++ [.lockReleased, .openingEnded (.ok .alreadyOpen),
        .queried conn .opened] := by
      cases hs
      simpa using congrArg List.dropLast hes
    simp [hx.tries, hx.not_openingEnded] at hs'
  | foundFaulted _ hc hq | foundClosed _ hc hq =>
    rw [finding_of_handle hc hq]
    exact ⟨rfl, rfl, fun call hm => (Option.some.inj (hcalls call hm)).symm⟩
  | foundEmpty _ hc =>
    have hnone : p.finding = none := by simp [finding, hc]
    rw [hnone]
    exact ⟨rfl, rfl, fun call hm => (Option.some.inj (hcalls call hm)).symm⟩
  | @closeStarted stop | @stoppedClosed stop | @stoppedEmpty stop => cases stop <;> cases hs
  | _ => cases hs

/-- What an opening found stays in the slot as long as it tries, and when it fails. -/
theorem Operates.spares (h : q.Operates t (.connect o) m s ws)
    (hs : s.tries = true ∨ ∃ e, .openingEnded (.error e) ∈ ws) : Spares q.finding m.slot ws := by
  revert hs
  refine h.induct (I := fun slot s ws => (s.tries = true ∨ ∃ e, .openingEnded (.error e) ∈ ws) →
    Spares q.finding slot ws) (fun r s es hturn hs => ?_) fun p r s s' ws es ho hp hg hturn hs => ?_
  · exact hturn.spares_lockTaken (by simpa using hs)
  · have hnot := ho.openingEnded_not_mem hg
    have hs' : s'.tries = true ∨ ∃ e, .openingEnded (.error e) ∈ es := by simpa [hnot] using hs
    cases htries : s.tries with
    | false =>
      have hno := hturn.succeeds hg htries
      simp [hno] at hs'
    | true =>
      obtain ⟨hslot, hcalls⟩ := hturn.spares htries hs'
      have hspares := hp (.inl htries)
      refine ⟨hspares.notOpen, hslot.trans hspares.slot, fun call hm => ?_⟩
      rw [List.filterMap_append, List.mem_append, List.filterMap_reverse, List.mem_reverse] at hm
      exact hm.elim (hspares.calls call) (hcalls call)

/-- What an abort found stays in the slot until it is decided, and when it is refused. -/
theorem Operates.refused (h : q.Operates t stop.goal m s ws)
    (hs : (∃ conn, s = .aborting conn) ∨
      ∃ a e, s = .finished (.stopped (.error (.aborting a e)))) :
    stop = .abort ∧ ∃ conn, q.finding = some (conn, .opened) ∧
      ws.filterMap Happening.started = [.abort conn] ∧ m.slot = ⟨some conn, .opened⟩ := by
  have hprogress := h.stopping
  generalize m.slot = slot at hprogress
  cases hprogress with
  | @aborting conn hstop hfound =>
    refine ⟨hstop, conn, hfound, ?_, by rw [hfound]; rfl⟩
    rw [List.filterMap_append, Finding.started_look]
    rfl
  | draining =>
    obtain ⟨conn, hs⟩ | ⟨a, e, hs⟩ := hs
    · exact nomatch hs
    · exact nomatch hs
  | @ended x hx =>
    obtain ⟨conn, hs⟩ | ⟨a, e, hs⟩ := hs
    · exact nomatch hs
    · have hresult : x.result = .error (.aborting a e) := by simpa using hs
      obtain ⟨e', hrefusal, -⟩ | ⟨-, -, -, e', -, he⟩ := (x.account.failed _).mp hresult
      · obtain ⟨⟨conn, haborted⟩, -⟩ := refusal_eq_some.mp hrefusal
        obtain ⟨hstop, hfound⟩ := aborted_eq_some.mp haborted
        refine ⟨hx.stop.symm.trans hstop, conn, hx.found.symm.trans hfound, ?_, ?_⟩
        · rw [started_events, haborted, hrefusal]
          rfl
        · rw [left_of_refusal hrefusal, hfound]
          rfl
      · exact nomatch he

/-- A close that finds a connection running starts nothing but to close it. -/
theorem Operates.closes (h : q.Operates t .close m s ws) {conn : ConnId}
    (hf : q.finding.running = some conn) : ws.filterMap Happening.started = [.close conn] := by
  have hclose : q.Operates t Stop.close.goal m s ws := h
  have hprogress := hclose.stopping
  generalize m.slot = slot at hprogress
  cases hprogress with
  | aborting habort => exact nomatch habort
  | @draining x _ conn' _ hx hrunning =>
    obtain rfl := Option.some.inj (hrunning.symm.trans hf)
    rw [List.filterMap_append, List.filterMap_append, Finding.started_look, started_abortEvents,
      aborted_of_close hx.stop]
    rfl
  | @ended x hx =>
    rw [started_events, aborted_of_close hx.stop, if_pos (refusal_of_close hx.stop), hx.found, hf]
    rfl

/-- If the next operation is a close and the channel still reports the connection running, it closes
exactly that connection. -/
def StaysClosable (m : Proxy) (conn : ConnId) : Prop :=
  ∀ r u, m.Next r u .close → (r.query conn).isRunning = true →
    (∃ m' s ws, r.Operates u .close m' s ws) ∧
      ∀ m' s ws, r.Operates u .close m' s ws → ws.filterMap Happening.started = [.close conn]

theorem Operates.staysClosable {goal : Goal} {conn : ConnId} (h : q.Operates t goal m s ws)
    (hs : s.grip ≠ .holding) (hc : m.slot.handle = some conn) : m.StaysClosable conn := by
  intro r u hn hrunning
  have hr : r.Attainable := h.attainable.1.stretches hn.stretches
  have hhandle : r.slot.handle = some conn := (hn.handle h hs).trans hc
  refine ⟨?_, fun m' s ws ho => ho.closes ?_⟩
  · have hturn : r.Turn u (.awaitingLock .close) _ _ _ :=
      @Turn.closeStarted r u .close conn hn.owns hhandle hrunning nofun
    obtain ⟨es, hes⟩ := hturn.begins
    rw [hes] at hturn
    exact ⟨_, _, _, .begins hr hn.waits hturn⟩
  · simp [finding, Finding.running, hhandle, hrunning]

/-- Openings that fail and aborts that are refused change nothing, in whatever order tasks take
turns and whatever the channel does. As long as an opening tries, and when it fails, it has asked
for connections and for nothing else, and the slot is as its look at it has left it: with the same
faulted connection, or empty. An abort leaves the same open connection until the channel has decided
about it, and if it is refused, and has not asked to close it. After both, the next operation, if it
is a close, closes the connection if that is still running. All failures come about in this way. -/
theorem failures_change_nothing :
    (∀ (q m : Proxy) (t : TaskId) (o : Opener) (s : Stage) (ws : List Happening),
      q.Operates t (.connect o) m s ws →
      (s.tries = true ∨ ∃ e, .openingEnded (.error e) ∈ ws) →
      (∀ call ∈ ws.filterMap Happening.started, call = .connect) ∧
        m.publishedState = m.slot.state ∧
        ((∃ conn, q.finding = some (conn, .faulted) ∧ m.slot = ⟨some conn, .faulted⟩ ∧
            (s.grip ≠ .holding → m.StaysClosable conn)) ∨
          (q.finding.running = none ∧ m.slot = ⟨none, .closed⟩))) ∧
    (∀ (q m : Proxy) (t : TaskId) (stop : Stop) (s : Stage) (ws : List Happening),
      q.Operates t stop.goal m s ws →
      ((∃ conn, s = .aborting conn) ∨
        ∃ a e, s = .finished (.stopped (.error (.aborting a e)))) →
      stop = .abort ∧ ∃ conn, q.finding = some (conn, .opened) ∧
        ws.filterMap Happening.started = [.abort conn] ∧ m.slot = ⟨some conn, .opened⟩ ∧
        m.publishedState = .opened ∧ (s.grip ≠ .holding → m.StaysClosable conn)) ∧
    ∀ p : Proxy, p.Reachable →
      (∀ t time e, ⟨time, some t, .openingEnded (.error e)⟩ ∈ p.history →
        ∃ (q m : Proxy) (o : Opener) (s : Stage) (ws : List Happening),
          q.Operates t (.connect o) m s ws ∧ s.grip ≠ .holding ∧ .openingEnded (.error e) ∈ ws ∧
            m.now = time ∧ m.Stretches p) ∧
      ∀ t time a e, ⟨time, some t, .returned (.stopped (.error (.aborting a e)))⟩ ∈ p.history →
        ∃ (q m : Proxy) (stop : Stop) (ws : List Happening),
          q.Operates t stop.goal m (.finished (.stopped (.error (.aborting a e)))) ws ∧
            m.now = time ∧ m.Stretches p := by
  refine ⟨fun q m t o s ws ho hs => ?_, fun q m t stop s ws ho hs => ?_, fun p hp =>
    ⟨fun t time e hm => hp.attainable.exists_openingEnded hm,
      fun t time a e hm => hp.attainable.exists_stopped hm⟩⟩
  · obtain ⟨hopen, hslot, hcalls⟩ := ho.spares hs
    refine ⟨hcalls, ho.published, ?_⟩
    cases hf : q.finding with
    | none => exact .inr ⟨rfl, by rw [hslot, hf]; rfl⟩
    | some found =>
      obtain ⟨conn, cs⟩ := found
      rw [hf] at hopen hslot
      cases cs with
      | closed => exact .inr ⟨rfl, hslot⟩
      | opened => exact nomatch hopen
      | faulted =>
        exact .inl ⟨conn, rfl, hslot, fun hg => ho.staysClosable hg (congrArg Slot.handle hslot)⟩
  · obtain ⟨hstop, conn, hfound, hcalls, hslot⟩ := ho.refused hs
    refine ⟨hstop, conn, hfound, hcalls, hslot, ?_, fun hg => ?_⟩
    · rw [ho.published, hslot]
    · exact ho.staysClosable hg (congrArg Slot.handle hslot)

/-- A refused abort leaves the open connection, and an opening that fails the faulted one. -/
theorem failures_change_nothing_of_two :
    let a : Address := ⟨"svc", by decide⟩
    let p := (ofDefaults a []).run [.submit .connect, .resume 0 .turn,
      .resume 0 (.reply (.connected .opened)), .submit .abort, .resume 1 .turn]
    let r := (ofDefaults a []).run [.submit .connect, .resume 0 .turn,
      .resume 0 (.reply (.connected .opened)), .drift 0 .faulted, .submit .connect,
      .resume 1 .turn]
    let failed := r.run [.resume 1 (.reply (.failed (.fault "x")))]
    (∃ (q m : Proxy) (ws : List Happening), p.Stretches m ∧
      q.Operates 1 .abort m (.finished (.stopped (.error (.aborting a (.fault "busy"))))) ws ∧
        ws.filterMap Happening.started = [.abort 0] ∧ m.slot = ⟨some 0, .opened⟩ ∧
        m.StaysClosable 0) ∧
    (∃ (q m : Proxy) (s : Stage) (ws : List Happening), q.Operates 1 (.connect .owner) m s ws ∧
      .openingEnded (.error (.opening a 1 (.fault "x"))) ∈ ws ∧
        (∀ call ∈ ws.filterMap Happening.started, call = .connect) ∧
        m.slot = ⟨some 0, .faulted⟩ ∧ m.StaysClosable 0) ∧
    ∃ (q m : Proxy) (o : Opener) (s : Stage) (ws : List Happening),
      q.Operates 1 (.connect o) m s ws ∧ .openingEnded (.error (.opening a 1 (.fault "x"))) ∈ ws ∧
        m.Stretches failed := by
  intro a p r failed
  obtain ⟨hopenings, haborts, hall⟩ := failures_change_nothing
  refine ⟨?_, ?_, ?_⟩
  · have hp : p.Reachable := reachable_ofDefaults _ _ _
    have hat : p.At 1 (.aborting 0) := by decide +kernel
    have hslot : p.slot = ⟨some 0, .opened⟩ := by decide +kernel
    have haddress : p.address = a := (run_stretches _).address
    obtain ⟨q, goal, ws, ho⟩ := hp.attainable.operates hat rfl
    obtain rfl : Goal.abort = goal := Option.some.inj (ho.operation rfl)
    have hturn := @Turn.abortRefused p 1 0 (.fault "busy")
    have hm : p.Stretches _ := .single (.turned hat hturn)
    have hdone := ho.goesOn rfl hturn
    rw [haddress] at hm hdone
    obtain ⟨-, conn, -, hcalls, hleft, -, hcloses⟩ :=
      haborts q _ 1 .abort _ _ hdone (.inr ⟨a, .fault "busy", rfl⟩)
    obtain rfl : conn = 0 := by simpa [hslot] using hleft.symm
    exact ⟨q, _, _, hm, hdone, hcalls, hleft, hcloses (by decide)⟩
  · have hr : r.Reachable := reachable_ofDefaults _ _ _
    have hat : r.At 1 (.connecting .owner ⟨0, 5, 0⟩) := by decide +kernel
    have hslot : r.slot = ⟨some 0, .faulted⟩ := by decide +kernel
    have haddress : r.address = a := (run_stretches _).address
    obtain ⟨q, goal, ws, ho⟩ := hr.attainable.operates hat rfl
    obtain rfl : Goal.connect .owner = goal := Option.some.inj (ho.operation rfl)
    have hdone := ho.goesOn rfl
      (@Turn.connectFailed r 1 .owner ⟨0, 5, 0⟩ (.fault "x") _ _ _ (.inl rfl) .owner)
    rw [haddress] at hdone
    have hfails := hopenings q _ 1 .owner _ _ hdone
    generalize hws : ws ++ List.reverse _ = ws' at hdone hfails
    have hm : .openingEnded (.error (.opening a 1 (.fault "x"))) ∈ ws' := by
      rw [← hws]
      simp [RetryLoop.attempts]
    obtain ⟨hcalls, -, ⟨conn, -, hleft, hcloses⟩ | ⟨-, hleft⟩⟩ := hfails (.inr ⟨_, hm⟩)
    · obtain rfl : conn = 0 := by simpa [hslot] using hleft.symm
      exact ⟨q, _, _, _, hdone, hm, hcalls, hleft, hcloses (by decide)⟩
    · simp [hslot] at hleft
  · have hm : ⟨0, some 1, .openingEnded (.error (.opening a 1 (.fault "x")))⟩ ∈ failed.history := by
      decide +kernel
    have hfailed : failed.Reachable := (reachable_ofDefaults _ _ _ : r.Reachable).run _
    obtain ⟨q, m, o, s, ws, ho, -, hws, -, hp⟩ := (hall failed hfailed).1 1 0 _ hm
    exact ⟨q, m, o, s, ws, ho, hws, hp⟩

end Proxy

end ResilientProxy
