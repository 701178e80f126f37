/-!
# Log levels

How verbose a log is, from silent to complete. Levels are named and numbered.
-/

namespace ResilientProxy.Logging

/-- The most verbose events that get through, from none to all. -/
inductive Level where
  | off
  | error
  | warn
  | info
  | debug
  | trace
  deriving DecidableEq, Repr

namespace Level

def text : Level → String
  | off => "off"
  | error => "error"
  | warn => "warn"
  | info => "info"
  | debug => "debug"
  | trace => "trace"

/-- The levels in order of verbosity, which is how they are numbered. -/
def all : List Level := [off, error, warn, info, debug, trace]

/-- The number that a text writes out in decimal, perhaps behind a plus sign. -/
def number? (cs : List Char) : Option Nat :=
  let digits :=
    match cs with
    | '+' :: ds => ds
    | ds => ds
  if digits.isEmpty || !digits.all Char.isDigit then none
  else some (digits.foldl (fun n c => n * 10 + (c.toNat - '0'.toNat)) 0)

/-- The level with the given name, in letters of either case, or number. -/
def ofText? (s : String) : Option Level :=
  match number? s.toList with
  | some n => all[n]?
  | none => all.find? fun l => l.text == s.map Char.toLower

end Level

end ResilientProxy.Logging
