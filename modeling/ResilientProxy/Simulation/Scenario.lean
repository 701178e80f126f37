import ResilientProxy.Config.Json
import ResilientProxy.Proxy.PendingCall
import ResilientProxy.Simulation.World

/-!
# Scenarios

A scenario is a list of steps taken one after the other by the owner of a proxy. Each step is
reported on: its result, when it was done, and which calls of the channel and which notices it
brought. Between two steps all tasks run as far as they can without the clock going on.
-/

namespace ResilientProxy.Simulation

/-- What an operation on a proxy is asked to do. -/
inductive Request where
  | connect
  | close
  | abort
  /-- Without an arena size the configured one is taken. -/
  | invoke (operation : String) (arenaSize : Option Nat) (text : String)
  deriving DecidableEq, Repr

def Request.job (c : Config) : Request → Job
  | connect => .connect
  | close => .close
  | abort => .abort
  | invoke operation arenaSize text =>
    .invoke operation (arenaSize.getD c.callArenaSize.toNat) text

/-- A name that a scenario gives to a task. -/
abbrev Label := Nat

inductive Step where
  | perform (request : Request)
  | state
  | describe
  | info
  | extend (script : Script)
  /-- Sets the state of a connection, counted from one; of the newest where none is named. -/
  | setState (number : Option Nat) (state : ConnState)
  | sleep (ms : Nat)
  | spawn (label : Label) (request : Request)
  | detach (label : Label) (operation : String) (arenaSize : Nat) (text : String)
  | pending (label : Label)
  | await (label : Label)
  | discard (label : Label)
  | drop

/-- The handle of a task that is under way. -/
inductive Handle where
  | spawned (task : TaskId)
  | detached (call : PendingCall)
  deriving DecidableEq, Repr

namespace Handle

def task : Handle → TaskId
  | spawned t => t
  | detached c => c.task

def operation? : Handle → Option String
  | spawned _ => none
  | detached c => some c.operation

end Handle

inductive Result where
  | nothing
  | outcome (o : Outcome)
  | outcomeAt (o : Outcome) (time : Nat)
  | resolved (result : Except ProxyError String)
  | state (s : ConnState)
  | description (text : String)
  | info (address config : String)
  | flag (b : Bool)
  | started (operation : String)
  | pending (finished : Bool) (operation : Option String)
  /-- There is no proxy to perform the step on any more. -/
  | dropped

/-- What a step brought. -/
structure Report where
  result : Result
  time : Nat
  /-- Whether the proxy is on hold; unknown once it is dropped. -/
  hold : Option Bool
  calls : List (Nat × ChannelCall)
  notices : List Notice

/-- A world, and the handles that the owner of its proxy keeps. -/
structure Stand where
  world : World
  handles : List (Label × Handle)
  /-- What the runtime says of the end of a task that has no outcome of its own. -/
  joinError : TaskId → Outcome → String

namespace Stand

def handle? (s : Stand) (label : Label) : Option Handle :=
  (s.handles.find? (·.1 == label)).map (·.2)

def forget (s : Stand) (label : Label) : Stand :=
  { s with handles := s.handles.filter (·.1 != label) }

def keep (s : Stand) (label : Label) (h : Handle) : Stand :=
  { s with handles := (label, h) :: (s.forget label).handles }

def setWorld (s : Stand) (w : World) : Stand := { s with world := w }

def proxy (s : Stand) : Proxy := s.world.proxy

def move (s : Stand) (m : Move) : Stand :=
  s.setWorld { s.world with proxy := s.proxy.step m }

/-- How a task ended that was waited for. -/
def outcomeOf (s : Stand) (t : TaskId) : Outcome := (s.proxy.outcome? t).getD .vanished

/-- Does what needs a reference to the proxy. -/
def withProxy (s : Stand) (act : Stand → Result × Stand) : Result × Stand :=
  if s.proxy.owned then act s else (.dropped, s)

def setState (s : Stand) (number : Option Nat) (state : ConnState) : Result × Stand :=
  let count := s.proxy.connections.length
  match number.getD count with
  | 0 => (.flag false, s)
  | conn + 1 =>
    if conn < count then (.flag true, s.move (.drift conn state)) else (.flag false, s)

/-- Waits for a task, and forgets its handle. -/
def await (s : Stand) (label : Label) : Result × Stand :=
  match s.handle? label with
  | none => (.nothing, s)
  | some h =>
    let s := (s.setWorld (s.world.await h.task)).forget label
    let o := s.outcomeOf h.task
    match h with
    | .spawned t => (.outcomeAt o ((s.proxy.finishedAt? t).getD s.proxy.now), s)
    | .detached c => (.resolved (c.resolve (s.joinError c.task) o), s)

/-- Drops the owner's reference, and wakes the teardown if that was the last one. -/
def drop (s : Stand) : Result × Stand :=
  if s.proxy.owned then
    let before := s.proxy.tasks.length
    let s := s.move .disown
    (.flag true,
      s.setWorld (((List.range s.proxy.tasks.length).drop before).foldl World.wake s.world))
  else (.flag false, s)

def take (s : Stand) : Step → Result × Stand
  | .perform request => s.withProxy fun s =>
    let t := s.proxy.tasks.length
    let s := s.setWorld (s.world.runJob (request.job s.proxy.config))
    (.outcome (s.outcomeOf t), s)
  | .state => s.withProxy fun s => (.state s.proxy.observe.1, s.move .observe)
  | .describe => s.withProxy fun s => (.description s.proxy.description, s)
  | .info => s.withProxy fun s => (.info s.proxy.address.text s.proxy.config.toJson, s)
  | .extend script =>
    (.nothing, s.setWorld { s.world with script := s.world.script.append script })
  | .setState number state => s.setState number state
  | .sleep ms => (.nothing, s.setWorld (s.world.sleep ms))
  | .spawn label request => s.withProxy fun s =>
    let t := s.proxy.tasks.length
    (.nothing, (s.setWorld (s.world.spawn (request.job s.proxy.config))).keep label (.spawned t))
  | .detach label operation arenaSize text => s.withProxy fun s =>
    let t := s.proxy.tasks.length
    (.started operation,
      (s.setWorld (s.world.spawn (.invoke operation arenaSize text))).keep label
        (.detached ⟨operation, t⟩))
  | .pending label =>
    match s.handle? label with
    | none => (.nothing, s)
    | some h => (.pending (s.proxy.isFinished h.task) h.operation?, s)
  | .await label => s.await label
  | .discard label => (.flag (s.handle? label).isSome, s.forget label)
  | .drop => s.drop

/-- The calls of the channel among some events, in their order. -/
def callsOf (events : List Event) : List (Nat × ChannelCall) :=
  events.filterMap fun e =>
    match e.what with
    | .callStarted call => some (e.time, call)
    | _ => none

/-- The notices among some events, in their order. -/
def noticesOf (events : List Event) : List Notice :=
  events.filterMap fun e =>
    match e.what with
    | .noted n => some n
    | _ => none

/-- What has happened since the history had `length` events, the earliest first. -/
def since (s : Stand) (length : Nat) : List Event :=
  (s.proxy.history.take (s.proxy.history.length - length)).reverse

/-- Takes a step, lets the tasks run, and reports. -/
def report (s : Stand) (step : Step) : Report × Stand :=
  let length := s.proxy.history.length
  let (result, s) := s.take step
  let time := s.proxy.now
  let s := s.setWorld s.world.settle
  let events := s.since length
  ({ result, time
     hold := if s.proxy.owned then some s.proxy.isOnHold else none
     calls := callsOf events
     notices := noticesOf events }, s)

def reports (s : Stand) : List Step → List Report × Stand
  | [] => ([], s)
  | step :: steps =>
    let (r, s) := s.report step
    let (rs, s) := s.reports steps
    (r :: rs, s)

/-- Ends the runtime, then drops the proxy, and gives the notices of that. -/
def abandon (s : Stand) : List Notice :=
  let length := s.proxy.history.length
  noticesOf (((s.move .shutDown).move .disown).since length)

end Stand

/-- What the simulated runtime says of a task that broke down, or was cut off. -/
def joinError (_ : TaskId) : Outcome → String
  | .panicked => "the task panicked"
  | _ => "the task was cancelled"

structure Scenario where
  address : String
  config : Config
  draws : Draws
  script : Script
  steps : List Step

namespace Scenario

/-- The reports on the steps, and the notices of dropping the proxy without a runtime after them. -/
def play (s : Scenario) : Except ConfigError (List Report × List Notice) :=
  match Proxy.ofText s.address s.config s.draws clock with
  | .error e => .error e
  | .ok p =>
    let (reports, stand) := Stand.reports ⟨.ofProxy p s.script, [], joinError⟩ s.steps
    .ok (reports, stand.abandon)

end Scenario

end ResilientProxy.Simulation
