/-!
# Connection states

What a channel reports about a connection, and what a proxy publishes about its own. A published
state is kept as one byte, so that it can be read in one piece while a transition is in flight.
-/

namespace ResilientProxy

inductive ConnState where
  /-- No live connection. -/
  | closed
  /-- Established and usable. -/
  | opened
  /-- Broken: it has to be closed or aborted before the proxy can be used again. -/
  | faulted
  deriving DecidableEq, Repr, Inhabited

namespace ConnState

/-- Whether there is a connection that closing or aborting would stop. -/
def isRunning : ConnState → Bool
  | closed => false
  | opened | faulted => true

def text : ConnState → String
  | closed => "closed"
  | opened => "open"
  | faulted => "faulted"

/-- The name of the state in a structural description. -/
def name : ConnState → String
  | closed => "Closed"
  | opened => "Open"
  | faulted => "Faulted"

def toByte : ConnState → UInt8
  | closed => 0
  | opened => 1
  | faulted => 2

/-- Reads a byte back; a byte that stands for no state is read as closed. -/
def ofByte (b : UInt8) : ConnState :=
  if b = 1 then opened else if b = 2 then faulted else closed

@[simp] theorem ofByte_toByte (s : ConnState) : ofByte s.toByte = s := by cases s <;> rfl

end ConnState

/-- What opening a proxy did. -/
inductive OpenOutcome where
  /-- The proxy was closed or faulted and is open now. -/
  | opened
  /-- The proxy was open already; nothing was done. -/
  | alreadyOpen
  deriving DecidableEq, Repr

namespace OpenOutcome

def wasOpened (o : OpenOutcome) : Bool := o == opened

end OpenOutcome

end ResilientProxy
