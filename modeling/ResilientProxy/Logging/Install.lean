import ResilientProxy.Logging.Config
import ResilientProxy.Logging.Filter

/-!
# Installing the log

A process has one log, and the first successful installation decides what it is. A configuration
whose filter cannot be read is refused before anything else; starting up must not fail for it, so
there is also a form that falls back to a plain filter and never complains.
-/

namespace ResilientProxy.Logging

inductive LoggingError where
  | badFilter (directives : String) (fault : FilterFault)
  | alreadyInstalled
  | unparsable (reason : String)
  deriving DecidableEq, Repr

def LoggingError.message : LoggingError → String
  | badFilter directives fault => "invalid log filter '" ++ directives ++ "': " ++ fault.text
  | alreadyInstalled =>
    "failed to install global subscriber: a global default trace dispatcher has already been set"
  | unparsable reason => "failed to parse logging configuration: " ++ reason

/-- What an installed log lets through, and how it writes. -/
structure Subscriber where
  filter : Filter
  json : Bool
  deriving DecidableEq, Repr

/-- The log of a process, once one is installed. -/
abbrev Host := Option Subscriber

namespace Host

/-- A process that has just started. -/
def fresh : Host := none

/-- Installs the log that `c` asks for, unless there is one already. -/
def tryInstall (h : Host) (c : Config) : Except LoggingError Unit × Host :=
  match Filter.ofText? c.directives with
  | .error fault => (.error (.badFilter c.directives fault), h)
  | .ok filter =>
    match h with
    | some _ => (.error .alreadyInstalled, h)
    | none => (.ok (), some ⟨filter, c.json⟩)

/-- The configuration to fall back to. -/
def fallback (c : Config) : Config := { Config.default with json := c.json }

/-- Installs the log that `c` asks for, or else the plain one, unless there is one already. -/
def install (h : Host) (c : Config) : Host :=
  match h.tryInstall c with
  | (.ok (), h) => h
  | (.error _, h) => (h.tryInstall (fallback c)).2

/-- A request to install a log. -/
inductive Request where
  /-- Asks for an answer. -/
  | checked (c : Config)
  /-- Has to succeed somehow. -/
  | quiet (c : Config)
  deriving DecidableEq, Repr

def perform (h : Host) : Request → Option (Except LoggingError Unit) × Host
  | .checked c =>
    let (r, h) := h.tryInstall c
    (some r, h)
  | .quiet c => (none, h.install c)

/-- The answers to a sequence of requests, and the process after them. -/
def performAll (h : Host) : List Request → List (Option (Except LoggingError Unit)) × Host
  | [] => ([], h)
  | r :: rs =>
    let (answer, h) := h.perform r
    let (answers, h) := h.performAll rs
    (answer :: answers, h)

/-- The most verbose level that gets through for a target. -/
def levelOf (h : Host) (target : String) : Level :=
  match h with
  | some s => s.filter.levelOf target
  | none => .off

/-- How an error of a target comes out: not at all, as text, or structured. The error has nothing
but a message. -/
inductive Form where
  | none
  | text
  | json
  deriving DecidableEq, Repr

def formOf (h : Host) (target : String) : Form :=
  match h with
  | some s =>
    if s.filter.levelFor target (some ["message"]) = .off then .none
    else if s.json then .json
    else .text
  | none => .none

end Host

end ResilientProxy.Logging
