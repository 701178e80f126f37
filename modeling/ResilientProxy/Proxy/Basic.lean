import ResilientProxy.Proxy.State

/-!
# Elementary effects

The small changes that all operations on a proxy are put together from.
-/

namespace ResilientProxy.Proxy

def record (p : Proxy) (task : Option TaskId) (what : Happening) : Proxy :=
  { p with history := ⟨p.now, task, what⟩ :: p.history }

/-- Reports to the log. -/
def note (p : Proxy) (t : TaskId) (n : Notice) : Proxy := p.record (some t) (.noted n)

def setStage (p : Proxy) (t : TaskId) (s : Stage) : Proxy := { p with tasks := p.tasks.set t s }

/-- Ends a task. -/
def finish (p : Proxy) (t : TaskId) (o : Outcome) : Proxy :=
  (p.setStage t (.finished o)).record (some t) (.returned o)

def setHandle (p : Proxy) (handle : Option ConnId) : Proxy :=
  { p with slot := { p.slot with handle := handle } }

/-- Writes a state into the slot, and publishes it. -/
def publish (p : Proxy) (s : ConnState) : Proxy :=
  { p with slot := { p.slot with state := s }, published := s.toByte }

/-- The state of the slot's connection, as the channel reports it. -/
def currentState (p : Proxy) : ConnState :=
  match p.slot.handle with
  | some c => p.query c
  | none => .closed

/-- Brings the slot up to date with what the channel reports about its connection. -/
def refresh (p : Proxy) (task : Option TaskId) : Proxy :=
  let p :=
    match p.slot.handle with
    | some c => p.record task (.queried c (p.query c))
    | none => p
  p.publish p.currentState

/-- Gets in line for the lock. -/
def lineUp (p : Proxy) (t : TaskId) (goal : Goal) : Proxy :=
  { p with lock := p.lock.join t }.setStage t (.awaitingLock goal)

/-- Gives a running task the lock, and goes on with `next`; if the lock is taken, the task waits in
line. -/
def acquire (p : Proxy) (t : TaskId) (goal : Goal) (next : Proxy → Proxy) : Proxy :=
  let q := p.lineUp t goal
  match p.lock.owner with
  | none => next (q.record (some t) (.lockTaken goal))
  | some _ => q

/-- Gives up the lock. The first in line, if there is one, has it from now on. -/
def release (p : Proxy) (t : TaskId) : Proxy :=
  { p with lock := p.lock.pass }.record (some t) .lockReleased

/-- Starts a call of the channel, at whose end the task goes on from `stage`. -/
def startCall (p : Proxy) (t : TaskId) (call : ChannelCall) (stage : Stage) : Proxy :=
  (p.record (some t) (.callStarted call)).setStage t stage

/-- The moment at which a time limit that starts now has passed. -/
def deadline (p : Proxy) (limit : Option Duration) : Option Nat :=
  limit.map (p.clock.after p.now)

/-- The error of a call that its time limit cut off. -/
def timedOut (limit : Option Duration) : ChannelError :=
  .operationTimedOut (UInt64.ofNat ((limit.getD .zero).millis))

/-- Takes the next jitter draw for the wait after an attempt. -/
def draw (p : Proxy) (t : TaskId) (attempt : UInt32) : Duration × Proxy :=
  let (u, draws) := p.draws.next
  let delay := (Backoff.mk p.config.retryTimeSlot).delay attempt u
  (delay, { p with draws := draws }.record (some t) (.drawn u))

/-- Waits at the stage that `stage` gives for the end of the wait, or goes straight on with `next`
if there is nothing to wait. -/
def pause (p : Proxy) (t : TaskId) (delay : Duration) (stage : Nat → Stage)
    (next : Proxy → Proxy) : Proxy :=
  let p := (p.record (some t) (.waiting delay)).setStage t (stage (p.clock.after p.now delay))
  if delay.isZero then next p else p

/-- Forgets a connection that the channel reports as closed. -/
def letGo (p : Proxy) (task : Option TaskId) : Proxy :=
  match p.slot.handle with
  | some c => (p.setHandle none).record task (.letGo c)
  | none => p

end ResilientProxy.Proxy
