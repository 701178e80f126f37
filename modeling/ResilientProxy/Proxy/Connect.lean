import ResilientProxy.Proxy.Attempt

/-!
# Opening the connection

Opening retries under the lock. A faulted connection stays in the slot until a new one is
established, so an opening that fails leaves everything as it was; then the old one is closed,
and whether that works does not matter for the new one.
-/

namespace ResilientProxy.Proxy

/-- Waits for a call of `close` on a connection that is out of the slot. -/
def startClose (p : Proxy) (t : TaskId) (conn : ConnId) (stage : Option Nat → Stage) : Proxy :=
  p.startCall t (.close conn) (stage (p.deadline p.config.closeTimeout))

/-- What closing a connection amounts to. A connection that is broken already may refuse to be
closed. -/
def closeResult (p : Proxy) (t : TaskId) (faulted : Bool) :
    Except ChannelError Unit → Except ConnectionError Unit × Proxy
  | .ok () => (.ok (), p)
  | .error e =>
    match e, faulted with
    | .invalidOperation detail, true => (.ok (), p.note t (.closedWithError p.address detail))
    | e, _ => (.error (.closing p.address e), p)

/-- Gives the lock back after opening, and goes on with what it was opened for. -/
def leaveConnect (p : Proxy) (t : TaskId) (opener : Opener)
    (result : Except ConnectionError OpenOutcome) : Proxy :=
  let p := (p.record (some t) (.openingEnded result)).release t
  match opener, result with
  | .owner, result => p.finish t (.connected result)
  | .call _, .error e => p.finish t (.called (.error (.connection e)))
  | .call c, .ok .opened =>
    (p.note t (.reconnected p.address c.operation)).beginAttempt t c.advance
  | .call c, .ok .alreadyOpen => p.attemptAfter t c p.config.reconnectWait

/-- Asks the channel for a connection. -/
def startConnect (p : Proxy) (t : TaskId) (opener : Opener) (r : RetryLoop) : Proxy :=
  p.startCall t .connect (.connecting opener r)

/-- Puts a new connection into the slot. -/
def install (p : Proxy) (t : TaskId) (opener : Opener) (r : RetryLoop) (fresh : ConnId) : Proxy :=
  let p := (p.setHandle (some fresh)).publish .opened
  let p :=
    if 0 < r.attempt then
      p.note t (.openedAfterRetrying p.address r.attempts (r.elapsed p.uptime))
    else p
  p.leaveConnect t opener (.ok .opened)

/-- The channel has established a connection. The one it replaces is taken down first. -/
def connected (p : Proxy) (t : TaskId) (opener : Opener) (r : RetryLoop) (s : ConnState) : Proxy :=
  let fresh := p.connections.length
  let p := { p with connections := p.connections ++ [s] }
  match p.slot.handle with
  | some stale => (p.setHandle none).startClose t stale (.replacing opener r fresh stale)
  | none => p.install t opener r fresh

/-- The connection that `fresh` replaces is closed, or as good as closed. -/
def replaced (p : Proxy) (t : TaskId) (opener : Opener) (r : RetryLoop) (fresh : ConnId)
    (result : Except ChannelError Unit) : Proxy :=
  let p :=
    match p.closeResult t true result with
    | (.ok (), p) => p
    | (.error e, p) => p.note t (.staleNotReleased p.address e)
  p.install t opener r fresh

/-- The wait after a failed attempt to open: fixed if the endpoint cannot be reached, and
exponential backoff otherwise. -/
def connectDelay (p : Proxy) (t : TaskId) (r : RetryLoop) (e : ChannelError) : Duration × Proxy :=
  match e.recovery with
  | .reconnect => (p.config.reconnectWait, p)
  | _ => p.draw t r.attempt

/-- The channel could not open a connection. -/
def connectFailed (p : Proxy) (t : TaskId) (opener : Opener) (r : RetryLoop) (e : ChannelError) :
    Proxy :=
  if e.recovery = .giveUp ∨ r.exhausted then
    p.leaveConnect t opener (.error (.opening p.address r.attempts e))
  else
    let p := if r.attempt = 0 then p.note t (.openWillRetry p.address r.maxRetries e) else p
    let (delay, p) := p.connectDelay t r e
    let p := p.note t (.waitingToOpen p.address r.attempt (UInt64.ofNat delay.millis))
    p.pause t delay (.connectPause opener r) fun p => p.startConnect t opener r.advance

/-- Opens the connection, with the lock in hand. -/
def connectLocked (p : Proxy) (t : TaskId) (opener : Opener) : Proxy :=
  let p := p.refresh (some t)
  let start := RetryLoop.start p.config.maxOpenRetries p.uptime
  match p.slot.state with
  | .opened => p.leaveConnect t opener (.ok .alreadyOpen)
  | .faulted => p.startConnect t opener start
  | .closed => (p.letGo (some t)).startConnect t opener start

/-- Opens the connection as soon as the lock allows. -/
def beginConnect (p : Proxy) (t : TaskId) (opener : Opener) : Proxy :=
  p.acquire t (.connect opener) fun p => p.connectLocked t opener

end ResilientProxy.Proxy
