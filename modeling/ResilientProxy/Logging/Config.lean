import ResilientProxy.Json.Record
import ResilientProxy.Json.Writer
import ResilientProxy.Logging.Components

/-!
# Logging configuration

A level for the whole program, levels for single components, and the form of the output. It is
written with its components in the order of their names.
-/

namespace ResilientProxy.Logging

open Json

structure Config where
  level : String
  components : Components
  /-- Structured output instead of text. -/
  json : Bool
  deriving DecidableEq, Repr

namespace Config

def default : Config := ⟨"info", .empty, false⟩

/-- Components are spelled with hyphens, but the targets of their events with underscores. -/
def targetName (component : String) : String :=
  String.ofList (component.toList.map fun c => if c = '-' then '_' else c)

/-- The filter that a configuration asks for: the level, then a directive for each component. -/
def directives (c : Config) : String :=
  c.components.entries.foldl (fun acc e => acc ++ "," ++ targetName e.1 ++ "=" ++ e.2) c.level

def putComponent (acc : Components) (name : String) : Reader Components := fun cs =>
  match skipColon cs with
  | .error f => .error f
  | .ok cs =>
    match readText cs with
    | .error f => .error f
    | .ok (level, rest) => .ok (acc.insert name level, rest)

/-- The components of a configuration; of a name that comes twice the last value counts. -/
def readComponents : Reader Components := fun cs =>
  let cs := skipBlanks cs
  match cs with
  | [] => .error (.atEnd .value)
  | c :: rest =>
    if c = '\x7b' then readMembers putComponent .empty rest else .error (wrongType "a map" cs)

/-- The fields of a configuration in their order. -/
def recordType : RecordType Config where
  name := "LogConfig"
  fields := [
    .of "level" readText fun c s => { c with level := s },
    .of "components" readComponents fun c m => { c with components := m },
    .of "json" readBoolean fun c b => { c with json := b }]
  default := default

def ofJson (text : String) : Except String Config :=
  match recordType.parse text with
  | .error f => .error (f.message text.toList)
  | .ok c => .ok c

def toJson (c : Config) : String :=
  String.ofList (writeObject
    [("level", writeText c.level),
      ("components", writeObject (c.components.entries.map fun e => (e.1, writeText e.2))),
      ("json", writeBoolean c.json)])

end Config

end ResilientProxy.Logging
