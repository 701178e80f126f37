import ResilientProxy.Proxy.Connect

/-!
# Taking the connection down

Closing and aborting leave the slot empty and the proxy ready to be opened again, whatever the
channel says to the close. The one exception is an abort that the channel refuses: then nothing
has changed.
-/

namespace ResilientProxy.Proxy

def stopNotice (p : Proxy) : Stop → Notice
  | .close => .closed p.address
  | .abort => .aborted p.address

/-- The slot is empty; closes the operation. -/
def stopped (p : Proxy) (t : TaskId) (stop : Stop) (result : Except ConnectionError Bool) : Proxy :=
  let p := p.publish .closed
  let p :=
    match result with
    | .ok true => p.note t (p.stopNotice stop)
    | _ => p
  (p.release t).finish t (.stopped result)

/-- Takes the connection out of the slot, and closes it if it was running in state `s`. -/
def drain (p : Proxy) (t : TaskId) (stop : Stop) (s : ConnState) (faulted : Bool) : Proxy :=
  match p.slot.handle with
  | some conn =>
    if s.isRunning then (p.setHandle none).startClose t conn (.draining stop conn faulted)
    else (p.letGo (some t)).stopped t stop (.ok false)
  | none => p.stopped t stop (.ok false)

/-- The channel has closed the connection, or failed to. -/
def drained (p : Proxy) (t : TaskId) (stop : Stop) (faulted : Bool)
    (result : Except ChannelError Unit) : Proxy :=
  match p.closeResult t faulted result with
  | (.ok (), p) => p.stopped t stop (.ok true)
  | (.error e, p) => p.stopped t stop (.error e)

/-- Closes the connection, with the lock in hand. -/
def closeLocked (p : Proxy) (t : TaskId) : Proxy :=
  let p := p.refresh (some t)
  p.drain t .close p.slot.state (p.slot.state == .faulted)

/-- Aborts the connection, with the lock in hand. One that is not open needs no abort. -/
def abortLocked (p : Proxy) (t : TaskId) : Proxy :=
  let p := p.refresh (some t)
  match p.slot.handle, p.slot.state with
  | some conn, .opened => p.startCall t (.abort conn) (.aborting conn)
  | _, s => p.drain t .abort s true

/-- The channel refused to abort. -/
def abortRefused (p : Proxy) (t : TaskId) (e : ChannelError) : Proxy :=
  (p.release t).finish t (.stopped (.error (.aborting p.address e)))

/-- The channel has aborted the connection, which is faulted now. -/
def aborted (p : Proxy) (t : TaskId) : Proxy := p.drain t .abort .opened true

def beginClose (p : Proxy) (t : TaskId) : Proxy := p.acquire t .close fun p => p.closeLocked t

def beginAbort (p : Proxy) (t : TaskId) : Proxy := p.acquire t .abort fun p => p.abortLocked t

end ResilientProxy.Proxy
