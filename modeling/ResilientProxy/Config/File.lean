import ResilientProxy.Config.Json

/-!
# Configuration files

Reading a configuration from a file: what its path leads to decides whether there is a text at all.
A path that names no file in an otherwise empty directory leads to that directory or a parent of it,
or nowhere.
-/

namespace ResilientProxy.Config

/-- What a path leads to. -/
inductive PathTarget where
  | missing
  | directory
  /-- The path holds a character that no file name may hold. -/
  | unusable
  /-- The path, or a name in it, is longer than paths or names may be. -/
  | overlong
  /-- A file whose bytes are no UTF-8 text. -/
  | binary
  | text (s : String)
  deriving DecidableEq, Repr

namespace PathTarget

/-- A file that holds `bytes`. -/
def ofBytes (bytes : List UInt8) : PathTarget :=
  match String.fromUTF8? ⟨bytes.toArray⟩ with
  | some s => .text s
  | none => .binary

/-- Whether a step of a path stays among directories that always exist. -/
def isDotStep (step : List Char) : Bool := step == [] || step == ['.'] || step == ['.', '.']

/-- The steps of a path. -/
def steps : List Char → List (List Char)
  | [] => [[]]
  | c :: cs =>
    if c = '/' then [] :: steps cs
    else
      match steps cs with
      | [] => [[c]]
      | s :: rest => (c :: s) :: rest

/-- The most bytes that a name in a path may have. -/
def nameLimit : Nat := 255

/-- The most bytes that a path may have. -/
def pathLimit : Nat := 4095

/-- Where the steps of a path lead in an empty directory. The first that leads out of the
directories that always exist decides. -/
def follow : List (List Char) → PathTarget
  | [] => .directory
  | step :: rest =>
    if isDotStep step then follow rest
    else if nameLimit < (String.ofList step).utf8ByteSize then .overlong
    else .missing

/-- Where a path leads in an empty directory. -/
def inEmptyDirectory (path : String) : PathTarget :=
  if path.toList.contains '\x00' then .unusable
  else if path.isEmpty then .missing
  else if pathLimit < path.utf8ByteSize then .overlong
  else follow (steps path.toList)

end PathTarget

/-- Reads the configuration behind `path`. -/
def ofFile (path : String) : PathTarget → Except ConfigError Config
  | .missing => .error (.unreadable path "No such file or directory (os error 2)")
  | .directory => .error (.unreadable path "Is a directory (os error 21)")
  | .unusable => .error (.unreadable path "file name contained an unexpected NUL byte")
  | .overlong => .error (.unreadable path "File name too long (os error 36)")
  | .binary => .error (.unreadable path "stream did not contain valid UTF-8")
  | .text s => ofJson s

end ResilientProxy.Config
