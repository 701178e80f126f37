/-!
# Channel errors

The codes a channel reports for one operation, and the recovery that each of them calls for. The
recovery depends on the code alone.
-/

namespace ResilientProxy

/-- Why a channel could not open, close, abort or invoke. -/
inductive ChannelError where
  | outOfMemory
  | endpointNotAvailable
  | endpointTooBusy
  /-- The operation did not complete within `ms` milliseconds. -/
  | operationTimedOut (ms : UInt64)
  | quotaExceeded
  | endpointDisconnected
  | endpointNotFound
  | endpointUnreachable
  /-- The proxy holds no connection. -/
  | notOpen
  | invalidOperation (detail : String)
  | fault (detail : String)
  | other (detail : String)
  deriving DecidableEq, Repr

/-- The recovery that a failure calls for. -/
inductive Recovery where
  /-- None: another attempt would not help. -/
  | giveUp
  /-- The connection is taken for lost: open it again, then retry. -/
  | reconnect
  /-- Resources are short for now: wait, then retry on the same connection. -/
  | backOff
  deriving DecidableEq, Repr

namespace ChannelError

def message : ChannelError → String
  | outOfMemory => "out of memory"
  | endpointNotAvailable => "endpoint not available"
  | endpointTooBusy => "endpoint too busy"
  | operationTimedOut ms => "operation timed out after " ++ toString ms.toNat ++ "ms"
  | quotaExceeded => "quota exceeded"
  | endpointDisconnected => "endpoint disconnected"
  | endpointNotFound => "endpoint not found"
  | endpointUnreachable => "endpoint unreachable"
  | notOpen => "proxy is not open"
  | invalidOperation detail => "invalid operation: " ++ detail
  | fault detail => "service fault: " ++ detail
  | other detail => detail

/-- A proxy that its owner closed stays closed until the owner opens it, so calling without a
connection is not worth a retry. -/
def recovery : ChannelError → Recovery
  | outOfMemory | endpointNotAvailable | endpointTooBusy | operationTimedOut _ | quotaExceeded =>
    .backOff
  | endpointDisconnected | endpointNotFound | endpointUnreachable => .reconnect
  | notOpen | invalidOperation _ | fault _ | other _ => .giveUp

def isFatal (e : ChannelError) : Bool := e.recovery == .giveUp

def isRetryable (e : ChannelError) : Bool := !e.isFatal

/-- Whether the failure points at a lost connection. -/
def isDisconnect (e : ChannelError) : Bool := e.recovery == .reconnect

end ChannelError

end ResilientProxy
