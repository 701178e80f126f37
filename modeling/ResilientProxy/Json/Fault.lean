import ResilientProxy.Binary64.Shortest
import ResilientProxy.Text.Quoted

/-!
# Faults of a JSON text

Reading stops at the first fault. A fault says what is wrong and where: it keeps the text that was
left when it was found, and how many bytes beyond that point count as read. Lines and columns are
worked out from it only when a message is written; a column counts bytes.
-/

namespace ResilientProxy.Json

/-- What was still open when the text ended. -/
inductive Enclosure where
  | value
  | string
  | list
  | object
  deriving DecidableEq, Repr

/-- A value of another type than the one asked for, or out of its range. -/
inductive Found where
  | null
  | boolean (b : Bool)
  | integer (n : Int)
  | float (negative : Bool) (magnitude : Rat)
  | string (s : String)
  | sequence
  | map
  deriving DecidableEq, Repr

inductive Complaint where
  | unexpectedEnd (inside : Enclosure)
  | expectedValue
  | expectedLiteral
  | expectedColon
  | expectedCommaOrBrace
  | expectedCommaOrBracket
  | keyNotString
  | trailingComma
  | trailingCharacters
  | invalidNumber
  | numberOutOfRange
  | controlCharacter
  | invalidEscape
  | unfinishedSurrogatePair
  | loneSurrogate
  | duplicateField (name : String)
  | wrongType (found : Found) (expected : String)
  | wrongValue (found : Found) (expected : String)
  deriving DecidableEq, Repr

/-- What is wrong, the text left when it was found, and how many bytes of that count as read. -/
structure Fault where
  complaint : Complaint
  rest : List Char
  past : Nat
  deriving DecidableEq, Repr

namespace Fault

/-- The fault is the next character, of which one byte counts as read. -/
def here (complaint : Complaint) (rest : List Char) : Fault := ⟨complaint, rest, 1⟩

/-- The fault came to light before the next character. -/
def before (complaint : Complaint) (rest : List Char) : Fault := ⟨complaint, rest, 0⟩

def atEnd (inside : Enclosure) : Fault := ⟨.unexpectedEnd inside, [], 0⟩

end Fault

def Enclosure.text : Enclosure → String
  | value => "a value"
  | string => "a string"
  | list => "a list"
  | object => "an object"

def Found.text : Found → String
  | null => "null"
  | boolean b => "boolean `" ++ (if b then "true" else "false") ++ "`"
  | integer n => "integer `" ++ toString n ++ "`"
  | float negative q =>
    "floating point `" ++ (if negative then "-" else "") ++ Binary64.magnitudeText q ++ "`"
  | string s => "string " ++ quoted s
  | sequence => "sequence"
  | map => "map"

def Complaint.text : Complaint → String
  | unexpectedEnd inside => "EOF while parsing " ++ inside.text
  | expectedValue => "expected value"
  | expectedLiteral => "expected ident"
  | expectedColon => "expected `:`"
  | expectedCommaOrBrace => "expected `,` or `\x7d`"
  | expectedCommaOrBracket => "expected `,` or `]`"
  | keyNotString => "key must be a string"
  | trailingComma => "trailing comma"
  | trailingCharacters => "trailing characters"
  | invalidNumber => "invalid number"
  | numberOutOfRange => "number out of range"
  | controlCharacter => "control character (\\u0000-\\u001F) found while parsing a string"
  | invalidEscape => "invalid escape"
  | unfinishedSurrogatePair => "unexpected end of hex escape"
  | loneSurrogate => "lone leading surrogate in hex escape"
  | duplicateField name => "duplicate field `" ++ name ++ "`"
  | wrongType found expected => "invalid type: " ++ found.text ++ ", expected " ++ expected
  | wrongValue found expected => "invalid value: " ++ found.text ++ ", expected " ++ expected

/-- A place in a text: lines count from one, columns are bytes since the last line break. -/
structure Position where
  line : Nat
  column : Nat
  deriving DecidableEq, Repr

namespace Position

def start : Position := ⟨1, 0⟩

/-- The position `bytes` bytes further on in `text`, or at its end. -/
def advance (p : Position) : Nat → List Char → Position
  | _, [] => p
  | bytes, c :: cs =>
    if bytes = 0 then p
    else if c = '\n' then advance ⟨p.line + 1, 0⟩ (bytes - 1) cs
    else advance ⟨p.line, p.column + min bytes c.utf8Size⟩ (bytes - c.utf8Size) cs

end Position

/-- How many bytes a text takes up. -/
def byteCount : List Char → Nat
  | [] => 0
  | c :: cs => c.utf8Size + byteCount cs

namespace Fault

/-- Where in `text` the fault lies. -/
def position (f : Fault) (text : List Char) : Position :=
  Position.start.advance (byteCount text - byteCount f.rest + f.past) text

/-- The fault in words, with its place in `text`. -/
def message (f : Fault) (text : List Char) : String :=
  let p := f.position text
  f.complaint.text ++ " at line " ++ toString p.line ++ " column " ++ toString p.column

end Fault

end ResilientProxy.Json
