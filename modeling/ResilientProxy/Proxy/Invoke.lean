import ResilientProxy.Proxy.Connect

/-!
# The retries of a call

What becomes of a call when an attempt ends. A lost connection is opened again; if it turns out to
be open, the call waits a fixed time instead. Of a burst of failures only the first is reported.
-/

namespace ResilientProxy.Proxy

/-- Marks a burst of failures, and reports it if it begins with this one. -/
def engageHold (p : Proxy) (t : TaskId) (c : Call) (e : ChannelError) : Proxy :=
  let (first, hold) := p.hold.engage
  let p := { p with hold := hold }
  if first then p.note t (.callWillRetry p.address c.operation c.retry.maxRetries e) else p

/-- Goes on after a failed attempt with retries left. -/
def retryCall (p : Proxy) (t : TaskId) (c : Call) (e : ChannelError) : Proxy :=
  let p := p.engageHold t c e
  match e.recovery with
  | .reconnect => p.beginConnect t (.call c)
  | _ =>
    let (delay, p) := p.draw t c.retry.attempt
    let p := p.note t
      (.backingOff c.operation c.retry.attempt (UInt64.ofNat delay.millis))
    p.attemptAfter t c delay

/-- An attempt failed. -/
def attemptFailed (p : Proxy) (t : TaskId) (c : Call) (e : ChannelError) : Proxy :=
  let p := p.record (some t) (.attempted c.retry (.error e))
  if e.recovery = .giveUp ∨ c.retry.exhausted then p.giveUp t c e else p.retryCall t c e

/-- An attempt succeeded, which ends the burst of failures too. -/
def attemptSucceeded (p : Proxy) (t : TaskId) (c : Call) (response : String) : Proxy :=
  let p := p.record (some t) (.attempted c.retry (.ok response))
  { p with hold := p.hold.release }.finish t (.called (.ok response))

end ResilientProxy.Proxy
