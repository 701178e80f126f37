import ResilientProxy.Proxy.Invoke
import ResilientProxy.Proxy.Stop
import ResilientProxy.Proxy.Teardown

/-!
# Runs of a proxy

A run is a list of moves: tasks are submitted and told that what they waited for has come, the
channel's connections change state, the clock goes on, references go away. All lists of moves are
runs, so a statement about all runs covers every behaviour of the channel and every order in which
tasks may take turns. A move that makes no sense where it stands changes nothing.
-/

namespace ResilientProxy

/-- What a waiting task is told. -/
inductive Signal where
  /-- It may begin, or it has the lock. -/
  | turn
  /-- Its pause is over. -/
  | elapsed
  | reply (r : Reply)
  /-- The time limit of its call has passed. -/
  | expired
  deriving DecidableEq, Repr

inductive Move where
  | submit (job : Job)
  | resume (t : TaskId) (signal : Signal)
  /-- The channel takes scratch memory for the attempt of a task. -/
  | allocate (t : TaskId) (length : Nat)
  /-- The channel changes the state of a connection. -/
  | drift (conn : ConnId) (state : ConnState)
  /-- Somebody asks for the state of the proxy. -/
  | observe
  /-- The runtime's clock and the machine's go on. -/
  | tick (ms nanos : Nat)
  /-- The owner lets go of its reference. -/
  | disown
  /-- The runtime ends. -/
  | shutDown
  deriving DecidableEq, Repr

namespace Proxy

/-- Goes on with the lock in hand. -/
def proceed (p : Proxy) (t : TaskId) : Goal → Proxy
  | .connect opener => p.connectLocked t opener
  | .close => p.closeLocked t
  | .abort => p.abortLocked t
  | .attempt c => p.attemptLocked t c

def begin (p : Proxy) (t : TaskId) : Job → Proxy
  | .connect => p.beginConnect t .owner
  | .close => p.beginClose t
  | .abort => p.beginAbort t
  | .invoke operation arenaSize request =>
    p.beginAttempt t ⟨operation, arenaSize, request, .start p.config.maxCallRetries p.uptime⟩

/-- A call of the channel was given up. -/
def expire (p : Proxy) (t : TaskId) : Stage → Proxy
  | .replacing opener r fresh _ _ =>
    p.replaced t opener r fresh (.error (timedOut p.config.closeTimeout))
  | .draining stop _ faulted _ =>
    p.drained t stop faulted (.error (timedOut p.config.closeTimeout))
  | .attempting c _ _ _ => p.attemptFailed t c (timedOut p.config.callTimeout)
  | _ => p

/-- The channel is done with what a task at the given stage waits for. A reply that does not fit is
no reply. -/
def answer (p : Proxy) (t : TaskId) : Stage → Reply → Option Proxy
  | .connecting opener r, .connected s => some (p.connected t opener r s)
  | .connecting opener r, .failed e => some (p.connectFailed t opener r e)
  | .replacing opener r fresh _ _, .done => some (p.replaced t opener r fresh (.ok ()))
  | .replacing opener r fresh _ _, .failed e => some (p.replaced t opener r fresh (.error e))
  | .draining stop _ faulted _, .done => some (p.drained t stop faulted (.ok ()))
  | .draining stop _ faulted _, .failed e => some (p.drained t stop faulted (.error e))
  | .aborting _, .done => some (p.aborted t)
  | .aborting _, .failed e => some (p.abortRefused t e)
  | .attempting c _ _ _, .answered response => some (p.attemptSucceeded t c response)
  | .attempting c _ _ _, .failed e => some (p.attemptFailed t c e)
  | .attempting _ _ _ _, .panicked => some (p.finish t .panicked)
  | .teardownAborting conn, .done => some (p.teardownAborted t conn (.ok ()))
  | .teardownAborting conn, .failed e => some (p.teardownAborted t conn (.error e))
  | .teardownClosing _, .done => some (p.teardownClosed t (.ok ()))
  | .teardownClosing _, .failed e => some (p.teardownClosed t (.error e))
  | _, _ => none

/-- A task at the given stage is told something. -/
def resumeAt (p : Proxy) (t : TaskId) (s : Stage) : Signal → Proxy
  | .turn =>
    match s with
    | .queued job => p.begin t job
    | .awaitingLock goal =>
      if p.lock.owner = some t then (p.record (some t) (.lockTaken goal)).proceed t goal else p
    | .teardownQueued conn s => p.teardownBegin t conn s
    | _ => p
  | .elapsed =>
    match s with
    | .connectPause opener r d => if d ≤ p.now then p.startConnect t opener r.advance else p
    | .callPause c d => if d ≤ p.now then p.beginAttempt t c.advance else p
    | _ => p
  | .reply r => ((p.record (some t) (.callEnded r)).answer t s r).getD p
  | .expired =>
    match s.limit with
    | some d => if d ≤ p.now then (p.record (some t) .callGivenUp).expire t s else p
    | none => p

def resume (p : Proxy) (t : TaskId) (signal : Signal) : Proxy :=
  match p.tasks[t]? with
  | some s => p.resumeAt t s signal
  | none => p

/-- Starts a task. -/
def submit (p : Proxy) (job : Job) : Proxy :=
  if p.owned && p.running then
    { p with tasks := p.tasks ++ [Stage.queued job] }.record (some p.tasks.length) (.submitted job)
  else p

/-- Takes scratch memory for the attempt of a task, or reports that there is none left. -/
def allocate (p : Proxy) (t : TaskId) (length : Nat) : Proxy :=
  match p.tasks[t]? with
  | some (.attempting c conn arena d) =>
    match arena.alloc length with
    | .ok (_, arena) => p.setStage t (.attempting c conn arena d)
    | .error _ => p.note t (.arenaExhausted length arena.remaining)
  | _ => p

/-- Asks for the state. If an operation is at work, or waiting to be, the published state is the
answer; else the channel is asked. -/
def observe (p : Proxy) : ConnState × Proxy :=
  let p :=
    match p.lock.owner with
    | none => p.refresh none
    | some _ => p
  (p.publishedState, p.record none (.observed p.publishedState))

def apply (p : Proxy) : Move → Proxy
  | .submit job => p.submit job
  | .resume t signal => p.resume t signal
  | .allocate t length => p.allocate t length
  | .drift conn s => { p with connections := p.connections.set conn s }
  | .observe => if p.owned then p.observe.2 else p
  | .tick ms nanos => { p with now := p.now + ms, uptime := p.uptime + nanos }
  | .disown => { p with owned := false }
  | .shutDown => p.shutDown

/-- One move, and the end of the proxy if that took its last reference away. -/
def step (p : Proxy) (m : Move) : Proxy := (p.apply m).reap

def run (p : Proxy) (moves : List Move) : Proxy := moves.foldl step p

@[simp] theorem run_nil (p : Proxy) : p.run [] = p := rfl

@[simp] theorem run_cons (p : Proxy) (m : Move) (ms : List Move) :
    p.run (m :: ms) = (p.step m).run ms := rfl

theorem run_append (p : Proxy) (as bs : List Move) : p.run (as ++ bs) = (p.run as).run bs :=
  List.foldl_append ..

end Proxy

end ResilientProxy
