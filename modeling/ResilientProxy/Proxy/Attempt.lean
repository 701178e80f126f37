import ResilientProxy.Proxy.Basic

/-!
# Attempts of a call

An attempt looks up the connection under the lock, gives the lock back, and hands the request to the
channel. No operation on the connection can come between the two, because nothing holds the task up
there.
-/

namespace ResilientProxy.Proxy

/-- Ends a call with the error of its last attempt. -/
def giveUp (p : Proxy) (t : TaskId) (c : Call) (e : ChannelError) : Proxy :=
  let elapsed := c.retry.elapsed p.uptime
  p.finish t (.called (.error (.call ⟨c.operation, c.retry.attempts, elapsed, e⟩)))

/-- Makes an attempt on the connection in the slot. Without one the call is over, since that is not
worth a retry; a call that asks for more scratch memory than can be reserved breaks its task
down. -/
def attemptLocked (p : Proxy) (t : TaskId) (c : Call) : Proxy :=
  let handle := p.slot.handle
  let p := (p.record (some t) (.lookedUp handle)).release t
  match handle with
  | none => (p.record (some t) (.attempted c.retry (.error .notOpen))).giveUp t c .notOpen
  | some conn =>
    if Arena.largest < c.arenaSize then p.finish t .panicked
    else
      let arena := Arena.acquire c.arenaSize
      p.startCall t (.invoke conn arena.capacity arena.used)
        (.attempting c conn arena (p.deadline p.config.callTimeout))

/-- Makes the next attempt as soon as the lock allows. -/
def beginAttempt (p : Proxy) (t : TaskId) (c : Call) : Proxy :=
  p.acquire t (.attempt c) fun p => p.attemptLocked t c

/-- Makes the attempt after this one once `delay` has passed. -/
def attemptAfter (p : Proxy) (t : TaskId) (c : Call) (delay : Duration) : Proxy :=
  p.pause t delay (.callPause c) fun p => p.beginAttempt t c.advance

end ResilientProxy.Proxy
