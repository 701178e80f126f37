import ResilientProxy.Proxy.Run

/-!
# Scripted channels

A channel that does what a script says. Each of its calls takes the next entry of the queue for its
kind, waits as long as the entry says, and then has the entry's effects. A call that is given up
stops in its wait, and has none.
-/

namespace ResilientProxy.Simulation

/-- What one call of a scripted channel does. -/
structure Entry where
  error : Option ChannelError
  /-- Milliseconds until the call is done. -/
  delay : Nat
  /-- The state that the call leaves its connection in. -/
  state : Option ConnState
  /-- Sizes of the scratch blocks that an invocation takes. -/
  allocs : List Nat
  panics : Bool
  deriving DecidableEq, Repr

namespace Entry

/-- A call that succeeds at once. -/
def plain : Entry := ⟨none, 0, none, [], false⟩

end Entry

/-- The kinds of channel calls. -/
inductive Method where
  | connect
  | invoke
  | close
  | abort
  deriving DecidableEq, Repr

/-- The entries to come, for each kind of call. -/
structure Script where
  connect : List Entry
  invoke : List Entry
  close : List Entry
  abort : List Entry
  deriving DecidableEq, Repr

namespace Script

def empty : Script := ⟨[], [], [], []⟩

def append (a b : Script) : Script :=
  ⟨a.connect ++ b.connect, a.invoke ++ b.invoke, a.close ++ b.close, a.abort ++ b.abort⟩

/-- The first entry of a queue; a queue that is used up goes on with plain entries. -/
def pop (q : List Entry) : Entry × List Entry :=
  match q with
  | [] => (.plain, [])
  | e :: q => (e, q)

/-- Takes the next entry for a kind of call. -/
def next (s : Script) : Method → Entry × Script
  | .connect => let (e, q) := pop s.connect; (e, { s with connect := q })
  | .invoke => let (e, q) := pop s.invoke; (e, { s with invoke := q })
  | .close => let (e, q) := pop s.close; (e, { s with close := q })
  | .abort => let (e, q) := pop s.abort; (e, { s with abort := q })

end Script

/-- The call of the channel that a task at a stage waits for, and its connection. -/
inductive Pending where
  | connect
  | invoke (conn : ConnId) (arena : Arena) (request : String)
  | close (conn : ConnId)
  | abort (conn : ConnId)

namespace Pending

def ofStage? : Stage → Option Pending
  | .connecting .. => some .connect
  | .attempting c conn arena _ => some (.invoke conn arena c.request)
  | .replacing _ _ _ stale _ => some (.close stale)
  | .draining _ conn _ _ | .teardownClosing conn => some (.close conn)
  | .aborting conn | .teardownAborting conn => some (.abort conn)
  | _ => none

def method : Pending → Method
  | connect => .connect
  | invoke .. => .invoke
  | close _ => .close
  | abort _ => .abort

end Pending

/-- Takes scratch blocks for as long as there is room. The result tells whether there was room for
all of them; the block for which there was none has been asked for too. -/
def allocateAll (t : TaskId) (remaining : Nat) : List Nat → List Move × Bool
  | [] => ([], true)
  | n :: ns =>
    if n ≤ remaining then
      let (moves, fits) := allocateAll t (remaining - n) ns
      (.allocate t n :: moves, fits)
    else ([.allocate t n], false)

/-- The end of a call that closes or aborts a connection. -/
def takeDown (t : TaskId) (conn : ConnId) (e : Entry) (otherwise : ConnState) : List Move :=
  match e.error with
  | some error =>
    (e.state.toList.map fun s => .drift conn s) ++ [.resume t (.reply (.failed error))]
  | none => [.drift conn (e.state.getD otherwise), .resume t (.reply .done)]

/-- The effects of a call of task `t` that is done as its entry says, the reply last. -/
def effects (p : Proxy) (t : TaskId) (e : Entry) : Pending → List Move
  | .connect =>
    match e.error with
    | some error => [.resume t (.reply (.failed error))]
    | none => [.resume t (.reply (.connected (e.state.getD .opened)))]
  | .close conn => takeDown t conn e .closed
  | .abort conn => takeDown t conn e .faulted
  | .invoke conn arena request =>
    if e.panics then [.resume t (.reply .panicked)]
    else
      let drifts := e.state.toList.map fun s => Move.drift conn s
      let reply : List Move :=
        match e.error with
        | some error => [.resume t (.reply (.failed error))]
        | none =>
          if e.state.getD (p.query conn) ≠ .opened then
            [.resume t (.reply (.failed .endpointDisconnected))]
          else
            let (moves, fits) :=
              allocateAll t arena.remaining (e.allocs ++ [request.utf8ByteSize])
            moves ++ [.resume t (.reply
              (if fits then .answered request else .failed .outOfMemory))]
      drifts ++ reply

end ResilientProxy.Simulation
