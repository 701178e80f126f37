import ResilientProxy.Proxy.Run

/-!
# Pending calls

The handle of a call that runs on a task of its own. Whoever holds it may wait for the outcome or
let go of it; the call goes on either way.
-/

namespace ResilientProxy

structure PendingCall where
  operation : String
  task : TaskId
  deriving DecidableEq, Repr

namespace PendingCall

/-- What a call comes to whose task ended in a given way. A task that broke down or was cut off has
no outcome of its own; `reason` is what the runtime says of such an end. -/
def resolve (c : PendingCall) (reason : Outcome → String) : Outcome → Except ProxyError String
  | .called result => result
  | o => .error (.detached c.operation (reason o))

end PendingCall

namespace Proxy

/-- How a task ended, if it has. -/
def outcome? (p : Proxy) (t : TaskId) : Option Outcome :=
  match p.tasks[t]? with
  | some (.finished o) => some o
  | _ => none

def isFinished (p : Proxy) (t : TaskId) : Bool := (p.outcome? t).isSome

/-- When a task ended. -/
def finishedAt? (p : Proxy) (t : TaskId) : Option Nat :=
  (p.history.find? fun e =>
    match e.what with
    | .returned _ => e.task == some t
    | _ => false).map (·.time)

end Proxy

end ResilientProxy
