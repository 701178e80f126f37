import ResilientProxy.ConnState
import ResilientProxy.Error

/-!
# Notices

What a proxy reports to the log of its host. A notice is data; its level, its message and its
fields are functions of it.
-/

namespace ResilientProxy

inductive Severity where
  | debug
  | info
  | warn
  | error
  deriving DecidableEq, Repr

/-- The value of a notice's field. -/
inductive FieldValue where
  | number (n : Nat)
  | text (s : String)
  deriving DecidableEq, Repr

inductive Notice where
  /-- The first attempt to open failed, and there are retries left. -/
  | openWillRetry (address : Address) (maxRetries : UInt32) (error : ChannelError)
  | openedAfterRetrying (address : Address) (attempts : UInt32) (elapsed : Duration)
  | waitingToOpen (address : Address) (attempt : UInt32) (delayMs : UInt64)
  /-- A new connection is open, but the faulted one it replaces could not be closed. -/
  | staleNotReleased (address : Address) (error : ConnectionError)
  | closed (address : Address)
  | aborted (address : Address)
  /-- Closing a faulted connection failed as an invalid operation, which does not matter. -/
  | closedWithError (address : Address) (detail : String)
  /-- The first failure of a burst. -/
  | callWillRetry (address : Address) (operation : String) (maxRetries : UInt32)
      (error : ChannelError)
  | reconnected (address : Address) (operation : String)
  | backingOff (operation : String) (attempt : UInt32) (delayMs : UInt64)
  | arenaExhausted (requested remaining : Nat)
  | tornDown (address : Address)
  | teardownAbortFailed (address : Address) (error : ChannelError)
  | teardownCloseFailed (address : Address) (error : ChannelError)
  /-- There is no runtime left to shut the connection down. -/
  | droppedOutsideRuntime (address : Address) (state : ConnState)
  deriving DecidableEq, Repr

namespace Notice

def severity : Notice → Severity
  | openWillRetry .. | staleNotReleased .. | closedWithError .. | callWillRetry .. => .warn
  | openedAfterRetrying .. | reconnected .. => .info
  | waitingToOpen .. | closed .. | aborted .. | backingOff .. | arenaExhausted .. | tornDown .. =>
    .debug
  | teardownAbortFailed .. | teardownCloseFailed .. | droppedOutsideRuntime .. => .error

def message : Notice → String
  | openWillRetry .. => "failed to open proxy for service, will re-attempt"
  | openedAfterRetrying .. => "proxy for service opened after retrying"
  | waitingToOpen .. => "waiting before next open attempt"
  | staleNotReleased .. => "failed to release faulted connection after reopening"
  | closed .. => "proxy closed"
  | aborted .. => "proxy aborted"
  | closedWithError .. => "proxy for service was closed, but with an error"
  | callWillRetry .. => "failed call to operation in service, proxy will retry"
  | reconnected .. => "proxy for service was re-opened after loss of connection"
  | backingOff .. => "backing off before retry"
  | arenaExhausted .. => "call arena exhausted"
  | tornDown .. => "proxy torn down"
  | teardownAbortFailed .. => "failed to abort proxy for service during teardown"
  | teardownCloseFailed .. => "failed to close proxy for service during teardown"
  | droppedOutsideRuntime .. =>
    "proxy dropped outside a Tokio runtime, connection was not shut down"

def fields : Notice → List (String × FieldValue)
  | openWillRetry a retries e =>
    [("address", .text a.text), ("max_retries", .number retries.toNat), ("error", .text e.message)]
  | openedAfterRetrying a attempts _ =>
    [("address", .text a.text), ("attempts", .number attempts.toNat)]
  | waitingToOpen a attempt ms =>
    [("address", .text a.text), ("attempt", .number attempt.toNat), ("delay_ms", .number ms.toNat)]
  | staleNotReleased a e => [("address", .text a.text), ("error", .text e.message)]
  | closed a | aborted a | tornDown a => [("address", .text a.text)]
  | closedWithError a detail => [("address", .text a.text), ("detail", .text detail)]
  | callWillRetry a operation retries e =>
    [("address", .text a.text), ("operation", .text operation),
      ("max_retries", .number retries.toNat), ("error", .text e.message)]
  | reconnected a operation => [("address", .text a.text), ("operation", .text operation)]
  | backingOff operation attempt ms =>
    [("operation", .text operation), ("attempt", .number attempt.toNat),
      ("delay_ms", .number ms.toNat)]
  | arenaExhausted requested remaining =>
    [("requested", .number requested), ("remaining", .number remaining)]
  | teardownAbortFailed a e | teardownCloseFailed a e =>
    [("address", .text a.text), ("error", .text e.message)]
  | droppedOutsideRuntime a s => [("address", .text a.text), ("state", .text s.text)]

/-- The fields that are measured rather than computed, as floating-point numbers. -/
def measures : Notice → List (String × Binary64)
  | openedAfterRetrying _ _ elapsed => [("elapsed_secs", elapsed.inSeconds)]
  | _ => []

end Notice

end ResilientProxy
