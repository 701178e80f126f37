import ResilientProxy.Arena
import ResilientProxy.Backoff
import ResilientProxy.Config
import ResilientProxy.ConnState
import ResilientProxy.HoldFlag
import ResilientProxy.Notice
import ResilientProxy.RetryLoop
import ResilientProxy.Text.Quoted

/-!
# The state of a proxy

A proxy and the tasks that use it, between two moments at which a task may be held up. The tasks
share the connection slot, the lock that guards it, the hold flag and the supply of jitter draws.
Each task stands at a `Stage`, which is plain data: what the task waits for and what it carries.
Everything that happens is also written into a history, so that what a run did can be said about
its history.
-/

namespace ResilientProxy

/-- Tasks are numbered from zero in the order of their submission. -/
abbrev TaskId := Nat

/-- Connections are numbered from zero in the order of their establishment. -/
abbrev ConnId := Nat

/-- A remote call on its way through its attempts. -/
structure Call where
  operation : String
  /-- Scratch bytes of each attempt. -/
  arenaSize : Nat
  request : String
  retry : RetryLoop
  deriving DecidableEq, Repr

namespace Call

/-- The call before its next attempt. -/
def advance (c : Call) : Call := { c with retry := c.retry.advance }

end Call

/-- What a task is started for. -/
inductive Job where
  | connect
  | close
  | abort
  | invoke (operation : String) (arenaSize : Nat) (request : String)
  deriving DecidableEq, Repr

/-- On whose behalf a connection is opened: its owner asked for it, or a call lost the one it
had. -/
inductive Opener where
  | owner
  | call (c : Call)
  deriving DecidableEq, Repr

/-- What a task wants the lock for. -/
inductive Goal where
  | connect (opener : Opener)
  | close
  | abort
  /-- To look up the connection for an attempt. -/
  | attempt (c : Call)
  deriving DecidableEq, Repr

/-- The two ways to take a connection down. -/
inductive Stop where
  | close
  | abort
  deriving DecidableEq, Repr

instance decidableEqExcept {ε α : Type} [DecidableEq ε] [DecidableEq α] : DecidableEq (Except ε α)
  | .ok a, .ok b => decidable_of_iff (a = b) ⟨congrArg _, Except.ok.inj⟩
  | .error a, .error b => decidable_of_iff (a = b) ⟨congrArg _, Except.error.inj⟩
  | .ok _, .error _ => isFalse nofun
  | .error _, .ok _ => isFalse nofun

/-- How a task ended. -/
inductive Outcome where
  | connected (result : Except ConnectionError OpenOutcome)
  /-- Whether a running connection was stopped. -/
  | stopped (result : Except ConnectionError Bool)
  | called (result : Except ProxyError String)
  | tornDown
  /-- The task broke down: the channel brought it down, or its scratch memory could not be
  reserved. -/
  | panicked
  /-- The runtime ended before the task did. -/
  | vanished
  deriving DecidableEq

/-- Where a task stands. Deadlines are moments on the clock. -/
inductive Stage where
  /-- Submitted, but not begun. -/
  | queued (job : Job)
  /-- In line for the lock, or at the head of the line with the lock already its own. -/
  | awaitingLock (goal : Goal)
  /-- Holds the lock; the channel is opening a connection. -/
  | connecting (opener : Opener) (retry : RetryLoop)
  /-- Holds the lock between two attempts to open. -/
  | connectPause (opener : Opener) (retry : RetryLoop) (deadline : Nat)
  /-- Holds the lock; the channel is closing the faulted connection that `fresh` replaces. -/
  | replacing (opener : Opener) (retry : RetryLoop) (fresh stale : ConnId)
      (deadline : Option Nat)
  /-- Holds the lock; the channel is closing the connection taken out of the slot. -/
  | draining (stop : Stop) (conn : ConnId) (faulted : Bool) (deadline : Option Nat)
  /-- Holds the lock; the channel is aborting the connection in the slot. -/
  | aborting (conn : ConnId)
  /-- The channel is working on an attempt. -/
  | attempting (call : Call) (conn : ConnId) (arena : Arena) (deadline : Option Nat)
  /-- Between two attempts of a call. -/
  | callPause (call : Call) (deadline : Nat)
  /-- The last reference is gone while the connection was in `state`; teardown has not begun. -/
  | teardownQueued (conn : ConnId) (state : ConnState)
  | teardownAborting (conn : ConnId)
  | teardownClosing (conn : ConnId)
  | finished (outcome : Outcome)
  deriving DecidableEq

namespace Stage

def isFinished : Stage → Bool
  | finished _ => true
  | _ => false

/-- Whether a task at this stage keeps the proxy alive. -/
def keepsProxy : Stage → Bool
  | finished _ | teardownQueued .. | teardownAborting _ | teardownClosing _ => false
  | _ => true

/-- The connection that a task at this stage has in hand: it is out of the slot, and closing it has
not begun. -/
def inHand : Stage → Option ConnId
  | replacing _ _ fresh _ _ => some fresh
  | teardownQueued conn _ | teardownAborting conn => some conn
  | _ => none

/-- The moment at which the call is given up that a task at this stage waits for. -/
def limit : Stage → Option Nat
  | replacing _ _ _ _ d | draining _ _ _ d | attempting _ _ _ d => d
  | _ => none

end Stage

/-- A call of the channel as it starts. -/
inductive ChannelCall where
  | connect
  | close (conn : ConnId)
  | abort (conn : ConnId)
  | invoke (conn : ConnId) (capacity used : Nat)
  deriving DecidableEq, Repr

/-- How a call of the channel ends. -/
inductive Reply where
  /-- A connection is established, in the given state. -/
  | connected (state : ConnState)
  /-- Closed or aborted. -/
  | done
  | answered (response : String)
  | failed (error : ChannelError)
  | panicked
  deriving DecidableEq, Repr

inductive Happening where
  | submitted (job : Job)
  /-- The task goes on with the lock in hand. -/
  | lockTaken (goal : Goal)
  | lockReleased
  /-- An attempt of a call looked for a connection in the slot. -/
  | lookedUp (handle : Option ConnId)
  /-- The channel was asked for the state of a connection. -/
  | queried (conn : ConnId) (state : ConnState)
  | callStarted (call : ChannelCall)
  | callEnded (reply : Reply)
  /-- A time limit passed before the channel was done. -/
  | callGivenUp
  /-- A connection was forgotten because the channel reports it as closed. -/
  | letGo (conn : ConnId)
  /-- The proxy was dropped, and there is no runtime to shut its connection down. -/
  | abandoned (conn : ConnId)
  /-- The runtime ended under the task that had the connection in hand. -/
  | lost (conn : ConnId)
  /-- Opening came to an end, for its owner or for a call. -/
  | openingEnded (result : Except ConnectionError OpenOutcome)
  /-- An attempt of a call ended, whether or not it reached the channel. -/
  | attempted (retry : RetryLoop) (result : Except ChannelError String)
  | drawn (unit : Binary64)
  /-- A wait of this length lies between two attempts; one of length zero holds nothing up. -/
  | waiting (delay : Duration)
  | noted (notice : Notice)
  | returned (outcome : Outcome)
  /-- The answer to somebody who asked for the state of the proxy. -/
  | observed (state : ConnState)
  deriving DecidableEq

/-- Something that happened, when, and in which task. Queries and the end of the owner's reference
belong to no task. -/
structure Event where
  time : Nat
  task : Option TaskId
  what : Happening
  deriving DecidableEq

/-- The lock, which is handed to waiting tasks in the order of their arrival. -/
structure Lock where
  owner : Option TaskId
  waiting : List TaskId
  deriving DecidableEq, Repr

namespace Lock

def free : Lock := ⟨none, []⟩

/-- Gets in line. A free lock is the newcomer's at once. -/
def join (l : Lock) (t : TaskId) : Lock :=
  match l.owner with
  | none => ⟨some t, l.waiting⟩
  | some o => ⟨some o, l.waiting ++ [t]⟩

/-- Hands the lock to the first in line. -/
def pass (l : Lock) : Lock :=
  match l.waiting with
  | [] => free
  | t :: ts => ⟨some t, ts⟩

end Lock

/-- What the lock guards: the connection of the proxy and the state it was last known to be in. -/
structure Slot where
  handle : Option ConnId
  state : ConnState
  deriving DecidableEq, Repr

structure Proxy where
  config : Config
  address : Address
  slot : Slot
  /-- The state in the slot, for those who cannot wait for the lock. -/
  published : UInt8
  hold : HoldFlag
  lock : Lock
  draws : Draws
  /-- Whether the owner still has a reference to the proxy. -/
  owned : Bool
  /-- Whether the last reference is gone. -/
  dropped : Bool
  /-- Whether there is a runtime to run tasks on. -/
  running : Bool
  /-- The state of every connection that the channel ever established. -/
  connections : List ConnState
  tasks : List Stage
  /-- The clock of the runtime, which all waits and time limits go by. -/
  clock : Clock
  /-- What it reads, in milliseconds. -/
  now : Nat
  /-- What the machine's clock reads, in nanoseconds. The runtime's clock may be paused or turned
  without it. -/
  uptime : Nat
  /-- What happened so far, the latest first. -/
  history : List Event

namespace Proxy

/-- A closed proxy to `address`, if the configuration can be worked with. -/
def create (address : Address) (config : Config) (draws : Draws) (clock : Clock) :
    Except ConfigError Proxy :=
  match config.check with
  | .error e => .error e
  | .ok () => .ok {
      config, address, draws, clock
      slot := ⟨none, .closed⟩
      published := ConnState.closed.toByte
      hold := .released
      lock := .free
      owned := true
      dropped := false
      running := true
      connections := []
      tasks := []
      now := 0
      uptime := 0
      history := [] }

/-- The address is looked at before the configuration. -/
def ofText (address : String) (config : Config) (draws : Draws) (clock : Clock) :
    Except ConfigError Proxy :=
  match Address.ofText? address with
  | none => .error .blankAddress
  | some a => create a config draws clock

/-- What the channel reports about a connection. -/
def query (p : Proxy) (c : ConnId) : ConnState := p.connections.getD c .closed

/-- The state that is published. -/
def publishedState (p : Proxy) : ConnState := .ofByte p.published

def isOnHold (p : Proxy) : Bool := p.hold.engaged

/-- The fields of the proxy in words; they show the published state and wait for nothing. -/
def description (p : Proxy) : String :=
  "ServiceProxy \x7b lifecycle: ProxyLifecycle \x7b address: EndpointAddress("
    ++ quoted p.address.text ++ "), state: " ++ p.publishedState.name ++ " \x7d, on_hold: "
    ++ (if p.isOnHold then "true" else "false") ++ " \x7d"

end Proxy

end ResilientProxy
