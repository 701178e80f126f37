import ResilientProxy.Proofs.Opening

/-!
# What taking the connection down comes to

What a close or an abort does is a function of what it finds in the slot, of what the channel
answers to the abort, and of how the connection can be closed. A refused abort is over with that;
in all other cases the slot is left empty, whatever the channel says to the close.
-/

namespace ResilientProxy

namespace Finding

/-- The connection that there is to take down: an open or a faulted one. -/
def running (f : Finding) : Option ConnId := (f.filter fun x => x.2.isRunning).map (·.1)

/-- What a look at the slot leaves in it. -/
def refreshed : Finding → Slot
  | none | some (_, .closed) => ⟨none, .closed⟩
  | some (conn, s) => ⟨some conn, s⟩

theorem started_look (f : Finding) : f.look.filterMap Happening.started = [] := by
  simp only [look]
  split <;> rfl

end Finding

/-- All that taking the connection down depends on. -/
structure Stopping where
  config : Config
  address : Address
  stop : Stop
  found : Finding
  /-- What the channel answers when it is asked to abort the connection. -/
  abortion : Except ChannelError Unit
  /-- How closing the connection ends; without an answer it is given up at its limit. -/
  closing : Option (Except ChannelError Unit)

namespace Stopping

variable (x : Stopping)

/-- The connection that the channel is asked to abort. -/
def aborted : Option ConnId :=
  match x.stop, x.found with
  | .abort, some (conn, .opened) => some conn
  | _, _ => none

/-- Why the connection could not be aborted. -/
def refusal : Option ChannelError :=
  match x.aborted, x.abortion with
  | some _, .error e => some e
  | _, _ => none

/-- Whether the connection that is closed was found faulted, or has just been aborted. -/
def broken : Bool := x.found.stale.isSome || x.aborted.isSome

def closed : Except ChannelError Unit :=
  x.closing.getD (.error (Proxy.timedOut x.config.closeTimeout))

/-- Whether closing comes to a success: a broken connection need not be fit to be closed. -/
def Closes : Prop :=
  x.closed = .ok () ∨ x.broken = true ∧ ∃ detail, x.closed = .error (.invalidOperation detail)

def closeResult : Except ConnectionError Unit :=
  match x.closed with
  | .ok () => .ok ()
  | .error (.invalidOperation detail) =>
    if x.broken then .ok () else .error (.closing x.address (.invalidOperation detail))
  | .error e => .error (.closing x.address e)

def result : Except ConnectionError Bool :=
  match x.found.running, x.refusal with
  | none, _ => .ok false
  | some _, some e => .error (.aborting x.address e)
  | some _, none => x.closeResult.map fun _ => true

/-- What is left in the slot. -/
def left : Slot :=
  match x.refusal with
  | some _ => x.found.refreshed
  | none => ⟨none, .closed⟩

/-- How the channel ends a call for which it has nothing to give. -/
def ending : Except ChannelError Unit → Happening
  | .ok () => .callEnded .done
  | .error e => .callEnded (.failed e)

def abortEvents : List Happening :=
  match x.aborted with
  | some conn => [.callStarted (.abort conn), ending x.abortion]
  | none => []

def closeEnding : Happening :=
  match x.closing with
  | some answer => ending answer
  | none => .callGivenUp

/-- What is noted when the connection has been closed. -/
def closeNotes : List Happening :=
  let success : Notice :=
    match x.stop with
    | .close => .closed x.address
    | .abort => .aborted x.address
  match x.closed with
  | .ok () => [.noted success]
  | .error (.invalidOperation detail) =>
    if x.broken then [.noted (.closedWithError x.address detail), .noted success] else []
  | .error _ => []

def closeEvents : List Happening :=
  match x.found.running, x.refusal with
  | some conn, none => .callStarted (.close conn) :: x.closeEnding :: x.closeNotes
  | _, _ => []

/-- All that happens, in order, from when the lock is taken until the result is returned. -/
def events : List Happening :=
  x.found.look ++ x.abortEvents ++ x.closeEvents ++ [.lockReleased, .returned (.stopped x.result)]

/-! ## What it amounts to -/

/-- Which calls of the channel are started, and what the result tells. -/
structure Account : Prop where
  calls : x.events.filterMap Happening.started = x.aborted.toList.map .abort ++
    if x.refusal = none then x.found.running.toList.map .close else []
  idle : x.result = .ok false ↔ x.found.running = none
  stopped : x.result = .ok true ↔ x.found.running ≠ none ∧ x.refusal = none ∧ x.Closes
  failed : ∀ e, x.result = .error e ↔
    (∃ e', x.refusal = some e' ∧ e = .aborting x.address e') ∨
      (x.found.running ≠ none ∧ x.refusal = none ∧ ¬ x.Closes ∧
        ∃ e', x.closed = .error e' ∧ e = .closing x.address e')

section

variable {x : Stopping} {conn : ConnId} {e : ChannelError}

theorem aborted_eq_some :
    x.aborted = some conn ↔ x.stop = .abort ∧ x.found = some (conn, .opened) := by
  rw [aborted]
  split
  · rename_i hs hf
    simp [hs, hf]
  · rename_i hno
    exact iff_of_false nofun fun ⟨hs, hf⟩ => hno conn hs hf

theorem aborted_of_close (h : x.stop = .close) : x.aborted = none := by
  rw [aborted, h]

theorem refusal_of_close (h : x.stop = .close) : x.refusal = none := by
  rw [refusal, aborted_of_close h]

/-- Only the abort of an open connection can be refused. -/
theorem refusal_eq_some : x.refusal = some e ↔
    (∃ conn, x.aborted = some conn) ∧ x.abortion = .error e := by
  rw [refusal]
  split <;> simp_all

theorem running_of_refusal (h : x.refusal = some e) :
    ∃ conn, x.found = some (conn, .opened) ∧ x.found.running = some conn := by
  obtain ⟨⟨conn, hconn⟩, -⟩ := refusal_eq_some.mp h
  obtain ⟨-, hf⟩ := aborted_eq_some.mp hconn
  exact ⟨conn, hf, by rw [hf]; rfl⟩

theorem result_of_idle (h : x.found.running = none) : x.result = .ok false := by
  rw [result, h]

theorem result_of_refusal (h : x.refusal = some e) :
    x.result = .error (.aborting x.address e) := by
  obtain ⟨conn, -, hrun⟩ := running_of_refusal h
  rw [result, hrun, h]

/-- Whatever the channel says to the close, nothing is left in the slot. -/
theorem left_of_not_refused (h : x.refusal = none) : x.left = ⟨none, .closed⟩ := by
  rw [left, h]

theorem left_of_refusal (h : x.refusal = some e) : x.left = x.found.refreshed := by
  rw [left, h]

theorem result_of_running (hr : x.found.running = some conn) (h : x.refusal = none) :
    x.result = x.closeResult.map fun _ => true := by
  rw [result, hr, h]

theorem closeResult_of_closes (h : x.Closes) : x.closeResult = .ok () := by
  obtain h | ⟨hb, detail, h⟩ := h
  · rw [closeResult, h]
  · rw [closeResult, h, hb]
    rfl

/-- Any other failure to close is passed on. -/
theorem closeResult_of_not_closes (h : ¬ x.Closes) :
    ∃ e, x.closed = .error e ∧ x.closeResult = .error (.closing x.address e) := by
  rw [Closes, not_or, not_and_or] at h
  cases hc : x.closed with
  | ok => exact absurd hc h.1
  | error e =>
    refine ⟨e, rfl, ?_⟩
    rw [closeResult, hc]
    cases e with
    | invalidOperation detail =>
      have hb : x.broken = false := by simpa [hc] using h.2
      simp [hb]
    | _ => rfl

theorem started_ending (answer : Except ChannelError Unit) : (ending answer).started = none := by
  cases answer <;> rfl

theorem started_closeEnding : x.closeEnding.started = none := by
  rw [closeEnding]
  split
  · exact started_ending _
  · rfl

theorem started_closeNotes : x.closeNotes.filterMap Happening.started = [] := by
  rw [closeNotes]
  split
  · rfl
  · split <;> rfl
  · rfl

theorem started_abortEvents :
    x.abortEvents.filterMap Happening.started = x.aborted.toList.map .abort := by
  rw [abortEvents]
  cases x.aborted with
  | none => rfl
  | some conn =>
    have hcall : Happening.started (.callStarted (.abort conn)) = some (.abort conn) := rfl
    simp [hcall, started_ending]

theorem started_closeEvents : x.closeEvents.filterMap Happening.started =
    if x.refusal = none then x.found.running.toList.map .close else [] := by
  rw [closeEvents]
  cases x.found.running with
  | none => simp
  | some conn =>
    cases x.refusal with
    | some e => rfl
    | none =>
      have hcall : Happening.started (.callStarted (.close conn)) = some (.close conn) := rfl
      simp [hcall, started_closeEnding, started_closeNotes]

theorem started_events : x.events.filterMap Happening.started = x.aborted.toList.map .abort ++
    if x.refusal = none then x.found.running.toList.map .close else [] := by
  rw [events, List.filterMap_append, List.filterMap_append, List.filterMap_append,
    Finding.started_look, started_abortEvents, started_closeEvents, List.nil_append]
  exact List.append_nil _

theorem submitted_not_mem (job : Job) : .submitted job ∉ x.events := by
  have hlook : .submitted job ∉ x.found.look := by
    simp only [Finding.look]
    split <;> simp
  have hending : ∀ answer, .submitted job ≠ ending answer := fun answer => by
    cases answer <;> simp [ending]
  have habort : .submitted job ∉ x.abortEvents := by
    rw [abortEvents]
    split <;> simp [hending]
  have hclose : .submitted job ∉ x.closeEvents := by
    have hnotes : .submitted job ∉ x.closeNotes := by
      rw [closeNotes]
      split
      · simp
      · split <;> simp
      · simp
    have hcloseEnding : .submitted job ≠ x.closeEnding := by
      rw [closeEnding]
      split
      · exact hending _
      · simp
    rw [closeEvents]
    split <;> simp [hnotes, hcloseEnding]
  simp [events, hlook, habort, hclose]

/-- A close that is given up fails for the limit that it exceeded. -/
theorem closed_of_givenUp (h : x.closing = none) (hlimit : x.config.closeTimeout ≠ none) :
    ∃ ms, x.config.closeTimeoutMs = some ms ∧ x.closed = .error (.operationTimedOut ms) := by
  obtain ⟨limit, hlimit⟩ := Option.ne_none_iff_exists'.mp hlimit
  obtain ⟨ms, hms, rfl⟩ := Option.map_eq_some_iff.mp hlimit
  refine ⟨ms, hms, ?_⟩
  rw [closed, h, hlimit]
  simp [Proxy.timedOut]

end

theorem account : x.Account := by
  refine ⟨started_events, ?_, ?_, fun e => ?_⟩
  all_goals
    cases hr : x.refusal with
    | some e' =>
      obtain ⟨conn, -, hrun⟩ := running_of_refusal hr
      simp [result_of_refusal hr, hrun, eq_comm]
    | none =>
      cases hrun : x.found.running with
      | none => simp [result_of_idle hrun]
      | some conn =>
        rw [result_of_running hrun hr]
        by_cases hc : x.Closes
        · simp [closeResult_of_closes hc, hc, Except.map]
        · obtain ⟨e', hclosed, hresult⟩ := closeResult_of_not_closes hc
          simp [hresult, hclosed, hc, Except.map, eq_comm]

end Stopping

end ResilientProxy
