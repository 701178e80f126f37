import ResilientProxy.Proofs.Stopping

/-!
# What a teardown comes to

What the teardown of a dropped proxy does is a function of the state that its connection was in and
of what the channel answers. It owes the log a report of every call that fails; only a faulted
connection need not be fit to be closed. It gives all reports that it owes but one: it takes any
close that is an invalid operation for a success, though the abort before may have failed.
-/

namespace ResilientProxy

/-- All that the teardown of a connection depends on. -/
structure Teardown where
  address : Address
  conn : ConnId
  /-- The state that the channel reported when the last reference went. -/
  state : ConnState
  /-- What the channel answers when it is asked to abort the connection. -/
  abortion : Except ChannelError Unit
  closed : Except ChannelError Unit

namespace Teardown

variable (x : Teardown)

/-- The calls of the channel, in order, and what comes of them. -/
def calls : List (ChannelCall × Except ChannelError Unit) :=
  if x.state = .opened then [(.abort x.conn, x.abortion), (.close x.conn, x.closed)]
  else [(.close x.conn, x.closed)]

/-- Whether the connection is faulted when it is closed: it was already, or it has been aborted. -/
def broken : Bool :=
  match x.state, x.abortion with
  | .faulted, _ | _, .ok () => true
  | _, _ => false

/-- Whether the close may fail in this way. -/
def excuses : ChannelError → Bool
  | .invalidOperation _ => x.broken
  | _ => false

/-- What is owed to the log for what comes of a call. -/
def owed : ChannelCall × Except ChannelError Unit → Option Notice
  | (.abort _, .error e) => some (.teardownAbortFailed x.address e)
  | (.close _, .error e) =>
    if x.excuses e then none else some (.teardownCloseFailed x.address e)
  | _ => none

def abortEvents : List Happening :=
  if x.state = .opened then
    .callStarted (.abort x.conn) :: Stopping.ending x.abortion ::
      match x.abortion with
      | .ok () => []
      | .error e => [.noted (.teardownAbortFailed x.address e)]
  else []

def closeNotice : Notice :=
  match x.closed with
  | .ok () | .error (.invalidOperation _) => .tornDown x.address
  | .error e => .teardownCloseFailed x.address e

/-- All that happens, in order. -/
def events : List Happening :=
  x.abortEvents ++ [.callStarted (.close x.conn), Stopping.ending x.closed, .noted x.closeNotice,
    .returned .tornDown]

/-- The log gets what it is owed, and is told of a success only if there is one. -/
structure Reports : Prop where
  failures : (x.events.filterMap Happening.notice).filter (·.severity == .error) =
    x.calls.filterMap x.owed
  success : .noted (.tornDown x.address) ∈ x.events →
    x.closed = .ok () ∨ ∃ e, x.closed = .error e ∧ x.excuses e = true

/-- An open connection can be neither aborted nor closed, and the latter is an invalid operation. -/
structure Swallows : Prop where
  state : x.state = .opened
  abortion : ∃ e, x.abortion = .error e
  closed : ∃ detail, x.closed = .error (.invalidOperation detail)

variable {x}

theorem started_events : x.events.filterMap Happening.started = x.calls.map (·.1) := by
  obtain ⟨address, conn, state, abortion, closed⟩ := x
  cases state <;> rcases abortion with e | ⟨⟩ <;> rcases closed with e' | ⟨⟩ <;> rfl

theorem tornDown_mem_events :
    .noted (.tornDown x.address) ∈ x.events ↔ x.closeNotice = .tornDown x.address := by
  have hending : ∀ answer, Happening.noted (.tornDown x.address) ≠ Stopping.ending answer := by
    rintro (e | ⟨⟩) <;> simp [Stopping.ending]
  have habort : .noted (.tornDown x.address) ∉ x.abortEvents := by
    rw [abortEvents]
    split
    · rcases x.abortion with e | ⟨⟩ <;> simp [hending]
    · simp
  simp [events, habort, hending, eq_comm]

/-- What the log gets: of the abort what it is owed, and of the close what the teardown says. -/
theorem errors_events : (x.events.filterMap Happening.notice).filter (·.severity == .error) =
    (if x.state = .opened then (x.owed (.abort x.conn, x.abortion)).toList else []) ++
      [x.closeNotice].filter (·.severity == .error) := by
  obtain ⟨address, conn, state, abortion, closed⟩ := x
  cases state <;> rcases abortion with e | ⟨⟩ <;> rcases closed with e' | ⟨⟩ <;> rfl

theorem owed_calls : x.calls.filterMap x.owed =
    (if x.state = .opened then (x.owed (.abort x.conn, x.abortion)).toList else []) ++
      (x.owed (.close x.conn, x.closed)).toList := by
  have hone : ∀ call, [call].filterMap x.owed = (x.owed call).toList := fun call => by
    cases h : x.owed call <;> simp [h]
  rw [calls]
  split
  · rw [← List.singleton_append, List.filterMap_append, hone, hone]
  · rw [hone, List.nil_append]

/-- The log gets all that it is owed if it gets what it is owed of the close. -/
theorem failures_iff : (x.events.filterMap Happening.notice).filter (·.severity == .error) =
    x.calls.filterMap x.owed ↔ [x.closeNotice].filter (·.severity == .error) =
      (x.owed (.close x.conn, x.closed)).toList := by
  rw [errors_events, owed_calls, List.append_cancel_left_eq]

/-- Of a connection that was running, it is known whether it is faulted when it is closed. -/
theorem broken_iff (h : x.state.isRunning = true) :
    x.broken = true ↔ ¬ (x.state = .opened ∧ ∃ e, x.abortion = .error e) := by
  rw [broken]
  cases hs : x.state with
  | closed =>
    rw [hs] at h
    cases h
  | faulted => simp
  | opened => rcases x.abortion with e | ⟨⟩ <;> simp

/-- All failures of the close but one are reported. -/
theorem closeNotice_of_error {e : ChannelError} (hc : x.closed = .error e)
    (he : ∀ detail, e ≠ .invalidOperation detail) :
    x.closeNotice = .teardownCloseFailed x.address e ∧ x.excuses e = false := by
  rw [closeNotice, hc]
  cases e with
  | invalidOperation detail => exact absurd rfl (he detail)
  | _ => exact ⟨rfl, rfl⟩

/-- A teardown gives all reports that it owes unless it swallows the failure of a close. -/
theorem reports_iff (h : x.state.isRunning = true) : x.Reports ↔ ¬ x.Swallows := by
  cases hc : x.closed with
  | ok =>
    have hnotice : x.closeNotice = .tornDown x.address := by rw [closeNotice, hc]
    refine iff_of_true ⟨failures_iff.mpr ?_, fun _ => .inl hc⟩ fun ⟨_, _, detail, hs⟩ => ?_
    · rw [hnotice, hc]
      rfl
    · simp [hc] at hs
  | error e =>
    by_cases he : ∃ detail, e = .invalidOperation detail
    · obtain ⟨detail, rfl⟩ := he
      have hnotice : x.closeNotice = .tornDown x.address := by rw [closeNotice, hc]
      have hreports : x.Reports ↔ x.broken = true := by
        refine ⟨fun hr => ?_, fun hb => ⟨failures_iff.mpr ?_, fun _ => .inr ⟨_, hc, hb⟩⟩⟩
        · obtain hok | ⟨e, he, hb⟩ := hr.success (tornDown_mem_events.mpr hnotice)
          · simp [hc] at hok
          · rw [hc] at he
            cases he
            exact hb
        · simp [hnotice, hc, owed, excuses, hb, Notice.severity]
      have hswallows : x.Swallows ↔ x.state = .opened ∧ ∃ e, x.abortion = .error e :=
        ⟨fun ⟨hs, ha, _⟩ => ⟨hs, ha⟩, fun ⟨hs, ha⟩ => ⟨hs, ha, detail, hc⟩⟩
      rw [hreports, hswallows, broken_iff h]
    · obtain ⟨hnotice, hexcuses⟩ := closeNotice_of_error hc fun detail hd => he ⟨detail, hd⟩
      refine iff_of_true ⟨failures_iff.mpr ?_, fun hm => ?_⟩ fun ⟨_, _, detail, hs⟩ => ?_
      · simp [hnotice, hc, owed, hexcuses, Notice.severity]
      · rw [tornDown_mem_events, hnotice] at hm
        cases hm
      · exact he ⟨detail, Except.error.inj (hc.symm.trans hs)⟩

end Teardown

end ResilientProxy
