import ResilientProxy.Proxy.Basic

/-!
# Teardown

When the last reference to a proxy is gone, its connection is shut down by a task of its own: nobody
is left to receive an error, so errors are only reported. Without a runtime there is no such task,
and the connection is left behind with a report.
-/

namespace ResilientProxy.Proxy

/-- Starts the teardown of a connection that was in state `s`. -/
def teardownBegin (p : Proxy) (t : TaskId) (conn : ConnId) (s : ConnState) : Proxy :=
  if s = .opened then p.startCall t (.abort conn) (.teardownAborting conn)
  else p.startCall t (.close conn) (.teardownClosing conn)

/-- Closes the connection, whether or not the abort worked. -/
def teardownAborted (p : Proxy) (t : TaskId) (conn : ConnId) (result : Except ChannelError Unit) :
    Proxy :=
  let p :=
    match result with
    | .ok () => p
    | .error e => p.note t (.teardownAbortFailed p.address e)
  p.startCall t (.close conn) (.teardownClosing conn)

/-- Reports the end of the teardown. -/
def teardownClosed (p : Proxy) (t : TaskId) (result : Except ChannelError Unit) : Proxy :=
  let n :=
    match result with
    | .ok () | .error (.invalidOperation _) => .tornDown p.address
    | .error e => .teardownCloseFailed p.address e
  (p.note t n).finish t .tornDown

/-- Whether nobody has a reference to the proxy any more. -/
def unreferenced (p : Proxy) : Bool := !p.owned && !p.tasks.any Stage.keepsProxy

/-- The last reference is gone. -/
def drop (p : Proxy) : Proxy :=
  let p := { p with dropped := true }
  match p.slot.handle with
  | none => p
  | some conn =>
    let s := p.query conn
    let p := p.record none (.queried conn s)
    if !s.isRunning then p.letGo none
    else
      let p := p.setHandle none
      if p.running then { p with tasks := p.tasks ++ [.teardownQueued conn s] }
      else (p.record none (.abandoned conn)).record none (.noted (.droppedOutsideRuntime p.address s))

/-- Drops the proxy if its last reference went away just now. -/
def reap (p : Proxy) : Proxy := if p.unreferenced && !p.dropped then p.drop else p

/-- The tasks end where they stand. -/
def cutOff (p : Proxy) : Proxy :=
  { p with
    tasks := p.tasks.map fun s => if s.isFinished then s else .finished .vanished
    lock := .free
    history := ((p.tasks.filterMap Stage.inHand).map fun c => ⟨p.now, none, .lost c⟩) ++ p.history }

/-- The runtime ends. The references of its tasks go with it. -/
def shutDown (p : Proxy) : Proxy := { p.cutOff.reap.cutOff with running := false }

end ResilientProxy.Proxy
