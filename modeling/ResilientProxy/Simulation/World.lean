import ResilientProxy.Simulation.Script

/-!
# Simulated worlds

A proxy over a scripted channel, with one thread and a virtual clock. A task runs until it has to
wait. Woken tasks run in the order in which they were woken, and timers of the same moment go off in
the order in which they were started. The clock jumps to the next timer when no task can run; the
machine's clock stands still. A task that the owner of the proxy runs itself stands apart from that
line: it goes first when the clock has jumped, and otherwise only when no other task can run.

Nothing here changes the proxy other than by its moves, so a simulation is one of its runs.
-/

namespace ResilientProxy.Simulation

/-- The longest wait, in milliseconds: thirty years of 365 days. -/
def longestWait : Nat := 30 * 365 * 24 * 60 * 60 * 1000

/-- The virtual clock. A longer wait than the longest is cut to it. -/
def clock : Clock := ⟨fun _ ms => ms ≤ longestWait, fun _ => rfl, longestWait⟩

/-- A timer wakes its task at a moment of the clock. -/
structure Timer where
  deadline : Nat
  task : TaskId
  deriving DecidableEq, Repr

/-- A call of the channel that a task waits for. -/
structure Progress where
  task : TaskId
  entry : Entry
  /-- When the call is done. -/
  doneAt : Nat
  deriving DecidableEq, Repr

structure World where
  proxy : Proxy
  script : Script
  progress : List Progress
  /-- The timers that are running, the first started first. -/
  timers : List Timer
  /-- Woken tasks, the next to run first. -/
  ready : List TaskId
  /-- The task that the owner runs itself, and whether it is woken. -/
  front : Option TaskId
  frontReady : Bool

namespace World

def ofProxy (p : Proxy) (s : Script) : World := ⟨p, s, [], [], [], none, false⟩

def stage (w : World) (t : TaskId) : Option Stage := w.proxy.tasks[t]?

def isFinished (w : World) (t : TaskId) : Bool := (w.stage t).all Stage.isFinished

def wake (w : World) (t : TaskId) : World :=
  if w.front = some t then { w with frontReady := true }
  else if w.ready.contains t then w
  else { w with ready := w.ready ++ [t] }

/-- Starts a task, which is run when its turn comes. -/
def spawn (w : World) (job : Job) : World :=
  { w with proxy := w.proxy.step (.submit job) }.wake w.proxy.tasks.length

/-- Sets up what a task now waits for: the end of its pause, or the end of its call. -/
def arm (w : World) (t : TaskId) : World :=
  match w.stage t with
  | none => w
  | some s =>
    match s, Pending.ofStage? s with
    | .connectPause _ _ d, _ | .callPause _ d, _ => { w with timers := w.timers ++ [⟨d, t⟩] }
    | s, some call =>
      let (entry, script) := w.script.next call.method
      let doneAt := w.proxy.now + w.proxy.clock.cut w.proxy.now entry.delay
      let timers : List Timer :=
        if entry.delay = 0 then []
        else ⟨doneAt, t⟩ :: (s.limit.toList.map fun d => ⟨d, t⟩)
      { w with
        script := script
        progress := w.progress ++ [⟨t, entry, doneAt⟩]
        timers := w.timers ++ timers }
    | _, none => w

/-- Wakes the task that was handed the lock. -/
def wakeOwner (w : World) : World :=
  match w.proxy.lock.owner with
  | none => w
  | some t =>
    match w.stage t with
    | some (.awaitingLock _) => w.wake t
    | _ => w

/-- Makes the moves by which task `t` goes on, and wakes the tasks that this lets run. -/
def perform (w : World) (t : TaskId) (moves : List Move) : World :=
  let before := w.proxy.tasks.length
  let w := { w with
    proxy := w.proxy.run moves
    progress := w.progress.filter (·.task != t)
    timers := w.timers.filter (·.task != t) }
  let w := (w.arm t).wakeOwner
  ((List.range w.proxy.tasks.length).drop before).foldl wake w

/-- The moves by which a task goes on, if it can. A call that is done wins against its time
limit. -/
def movesOf (w : World) (t : TaskId) : Option (List Move) :=
  match w.stage t with
  | none => none
  | some s =>
    match s with
    | .queued _ | .teardownQueued .. => some [.resume t .turn]
    | .awaitingLock _ => if w.proxy.lock.owner = some t then some [.resume t .turn] else none
    | .connectPause _ _ d | .callPause _ d =>
      if d ≤ w.proxy.now then some [.resume t .elapsed] else none
    | s =>
      match Pending.ofStage? s, w.progress.find? (·.task == t) with
      | some call, some p =>
        if p.doneAt ≤ w.proxy.now then some (effects w.proxy t p.entry call)
        else
          match s.limit with
          | some d => if d ≤ w.proxy.now then some [.resume t .expired] else none
          | none => none
      | _, _ => none

/-- More than the steps that all tasks together can still take. -/
def budget (w : World) : Nat :=
  (w.proxy.tasks.length + 4) * (w.proxy.config.maxCallRetries.toNat + 2)
    * (w.proxy.config.maxOpenRetries.toNat + 2) * 16

/-- Runs a task until it has to wait. -/
def runTask (t : TaskId) : Nat → World → World
  | 0, w => w
  | n + 1, w =>
    match w.movesOf t with
    | none => w
    | some moves => runTask t n (w.perform t moves)

/-- Runs the owner's own task, if it is woken. -/
def turnFront (w : World) : Option World :=
  match w.front, w.frontReady with
  | some t, true => some (runTask t w.budget { w with frontReady := false })
  | _, _ => none

/-- Runs the next woken task. -/
def turn (w : World) : Option World :=
  match w.ready with
  | [] => w.turnFront
  | t :: ts => some (runTask t w.budget { w with ready := ts })

/-- Jumps to the next timer, and wakes the tasks whose timers go off. -/
def jump (w : World) : Option World :=
  match (w.timers.map (·.deadline)).min? with
  | none => none
  | some d =>
    let due := w.timers.filter (·.deadline == d)
    let w := { w with
      proxy := w.proxy.step (.tick (d - w.proxy.now) 0)
      timers := w.timers.filter (·.deadline != d) }
    let w := due.foldl (fun w timer => w.wake timer.task) w
    some (w.turnFront.getD w)

/-- Runs woken tasks until none is left, while the clock stands still. -/
def settleWithin : Nat → World → World
  | 0, w => w
  | n + 1, w =>
    match w.turn with
    | none => w
    | some w => settleWithin n w

def settle (w : World) : World := settleWithin w.budget w

/-- Runs tasks, and the clock when there is none to run, until a task is finished. -/
def awaitWithin (t : TaskId) : Nat → World → World
  | 0, w => w
  | n + 1, w =>
    if w.isFinished t then w
    else
      match w.turn with
      | some w => awaitWithin t n w
      | none =>
        match w.jump with
        | some w => awaitWithin t n w
        | none => w

def await (w : World) (t : TaskId) : World := awaitWithin t w.budget w

/-- Runs tasks and the clock up to a moment. -/
def sleepWithin (moment : Nat) : Nat → World → World
  | 0, w => w
  | n + 1, w =>
    let w := w.settle
    match (w.timers.map (·.deadline)).min? with
    | some d =>
      if d ≤ moment then
        match w.jump with
        | some w => sleepWithin moment n w
        | none => w
      else { w with proxy := w.proxy.step (.tick (moment - w.proxy.now) 0) }
    | none => { w with proxy := w.proxy.step (.tick (moment - w.proxy.now) 0) }

def sleep (w : World) (ms : Nat) : World :=
  sleepWithin (w.proxy.now + w.proxy.clock.cut w.proxy.now ms) w.budget w

/-- The owner runs a task itself until it is finished. -/
def runJob (w : World) (job : Job) : World :=
  let t := w.proxy.tasks.length
  let w := { w with proxy := w.proxy.step (.submit job), front := some t }
  { (runTask t w.budget w).await t with front := none, frontReady := false }

end World

end ResilientProxy.Simulation
