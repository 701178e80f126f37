import ResilientProxy.Json.Skip

/-!
# Typed values and records

A value is read for a type. Where the text holds a value of another type, the fault names both. A
record is written as an object, whose members may come in any order and be left out, or as a list of
its fields in their order, which may end early. Members of an object that are no fields of the
record are skipped; a field that comes twice is a fault.
-/

namespace ResilientProxy.Json

/-- The fault of a value that is not of the expected type. It is read to its end, unless it is a
list or an object. -/
def wrongType (expected : String) (cs : List Char) : Fault :=
  let wrong (found : Found) (rest : List Char) : Fault := .before (.wrongType found expected) rest
  let literal (letters : List Char) (found : Found) (rest : List Char) : Fault :=
    match skipLiteral letters rest with
    | .error f => f
    | .ok rest => wrong found rest
  let number (r : Except Fault (Number × List Char)) : Fault :=
    match r with
    | .error f => f
    | .ok (.natural n, rest) => wrong (.integer n.toNat) rest
    | .ok (.negative n, rest) => wrong (.integer n) rest
    | .ok (.float negative q, rest) => wrong (.float negative q) rest
  match cs with
  | [] => .atEnd .value
  | c :: rest =>
    if c = 'n' then literal ['u', 'l', 'l'] .null rest
    else if c = 't' then literal ['r', 'u', 'e'] (.boolean true) rest
    else if c = 'f' then literal ['a', 'l', 's', 'e'] (.boolean false) rest
    else if c = '-' then number (readNumber true rest)
    else if c.isDigit then number (readNumber false cs)
    else if c = '"' then
      match readString rest with
      | .error f => f
      | .ok (s, rest) => wrong (.string (String.ofList s)) rest
    else if c = '[' then wrong .sequence cs
    else if c = '\x7b' then wrong .map cs
    else .here .expectedValue cs

/-- A number of the unsigned type named `expected`, which holds the numbers below `limit`. -/
def readUnsigned (expected : String) (limit : Nat) : Reader UInt64 := fun cs =>
  let cs := skipBlanks cs
  let number (r : Except Fault (Number × List Char)) : Except Fault (UInt64 × List Char) :=
    match r with
    | .error f => .error f
    | .ok (.natural n, rest) =>
      if n.toNat < limit then .ok (n, rest)
      else .error (.before (.wrongValue (.integer n.toNat) expected) rest)
    | .ok (.negative n, rest) => .error (.before (.wrongValue (.integer n) expected) rest)
    | .ok (.float negative q, rest) =>
      .error (.before (.wrongType (.float negative q) expected) rest)
  match cs with
  | [] => .error (.atEnd .value)
  | c :: rest =>
    if c = '-' then number (readNumber true rest)
    else if c.isDigit then number (readNumber false cs)
    else .error (wrongType expected cs)

/-- A value that may be null. -/
def readOptional {α : Type} (read : Reader α) : Reader (Option α) := fun cs =>
  let cs := skipBlanks cs
  let present : Except Fault (Option α × List Char) :=
    match read cs with
    | .error f => .error f
    | .ok (a, rest) => .ok (some a, rest)
  match cs with
  | [] => present
  | c :: rest =>
    if c = 'n' then
      match skipLiteral ['u', 'l', 'l'] rest with
      | .error f => .error f
      | .ok rest => .ok (none, rest)
    else present

def readText : Reader String := fun cs =>
  let cs := skipBlanks cs
  match cs with
  | [] => .error (.atEnd .value)
  | c :: rest =>
    if c = '"' then
      match readString rest with
      | .error f => .error f
      | .ok (s, rest) => .ok (String.ofList s, rest)
    else .error (wrongType "a string" cs)

def readBoolean : Reader Bool := fun cs =>
  let cs := skipBlanks cs
  let literal (letters : List Char) (b : Bool) (rest : List Char) :
      Except Fault (Bool × List Char) :=
    match skipLiteral letters rest with
    | .error f => .error f
    | .ok rest => .ok (b, rest)
  match cs with
  | [] => .error (.atEnd .value)
  | c :: rest =>
    if c = 't' then literal ['r', 'u', 'e'] true rest
    else if c = 'f' then literal ['a', 'l', 's', 'e'] false rest
    else .error (wrongType "a boolean" cs)

/-- Where the reader of an object stands once it has looked for another member. -/
inductive Member where
  /-- The object ended. -/
  | none
  | key (name : String)
  deriving DecidableEq, Repr

/-- The next key of an object, from behind its opening brace or its last member. -/
def readKey (first : Bool) : Reader Member := fun cs =>
  let key (rest : List Char) : Except Fault (Member × List Char) :=
    match readString rest with
    | .error f => .error f
    | .ok (s, rest) => .ok (.key (String.ofList s), rest)
  match skipBlanks cs with
  | [] => .error (.atEnd .object)
  | c :: rest =>
    if c = '\x7d' then .ok (.none, rest)
    else if first then
      if c = '"' then key rest else .error (.here .keyNotString (c :: rest))
    else if c = ',' then
      match skipBlanks rest with
      | [] => .error (.atEnd .value)
      | d :: tail =>
        if d = '"' then key tail
        else if d = '\x7d' then .error (.here .trailingComma (d :: tail))
        else .error (.here .keyNotString (d :: tail))
    else .error (.here .expectedCommaOrBrace (c :: rest))

/-- The members of an object whose keys and values go into `acc` one after the other. -/
def readMembersWithin {α : Type} (put : α → String → Reader α) :
    Nat → Bool → α → Reader α
  | 0, _, _, cs => .error (.here .expectedValue cs)
  | count + 1, first, acc, cs =>
    match readKey first cs with
    | .error f => .error f
    | .ok (.none, rest) => .ok (acc, rest)
    | .ok (.key name, rest) =>
      match put acc name rest with
      | .error f => .error f
      | .ok (acc, rest) => readMembersWithin put count false acc rest

/-- The members of an object, from behind its opening brace. An object has fewer members than its
text has characters. -/
def readMembers {α : Type} (put : α → String → Reader α) (acc : α) : Reader α := fun cs =>
  readMembersWithin put (cs.length + 1) true acc cs

/-- A field of a record of type `δ`: reading it gives the record with the field set. -/
structure Field (δ : Type) where
  name : String
  read : δ → Reader δ

namespace Field

/-- A field that is read for the type `α`. -/
def of {δ α : Type} (name : String) (read : Reader α) (set : δ → α → δ) : Field δ where
  name := name
  read d cs :=
    match read cs with
    | .error f => .error f
    | .ok (a, rest) => .ok (set d a, rest)

end Field

/-- A record type: its name in messages, its fields in their order, and the record that has every
field at its default. -/
structure RecordType (δ : Type) where
  name : String
  fields : List (Field δ)
  default : δ

namespace RecordType

variable {δ : Type}

/-- Looks for the end of an object as far as blanks allow. -/
def behindBrace (cs : List Char) : List Char :=
  match skipBlanks cs with
  | [] => []
  | c :: rest => if c = '\x7d' then rest else c :: rest

/-- Reads one member into a record, of which the fields in `seen` are read already. -/
def putMember (t : RecordType δ) (acc : List String × δ) (name : String) :
    Reader (List String × δ) := fun cs =>
  match t.fields.find? (·.name == name) with
  | some field =>
    if acc.1.contains name then .error (.before (.duplicateField name) (behindBrace cs))
    else
      match skipColon cs with
      | .error f => .error f
      | .ok cs =>
        match field.read acc.2 cs with
        | .error f => .error f
        | .ok (d, rest) => .ok ((name :: acc.1, d), rest)
  | none =>
    match skipColon cs with
    | .error f => .error f
    | .ok cs =>
      match skipValue cs with
      | .error f => .error f
      | .ok rest => .ok (acc, rest)

/-- The end of a list whose fields are all read. -/
def readListEnd {α : Type} (a : α) : Reader α := fun cs =>
  match skipBlanks cs with
  | [] => .error (.atEnd .list)
  | c :: rest =>
    if c = ']' then .ok (a, rest)
    else if c = ',' then
      match skipBlanks rest with
      | [] => .error (.before .trailingCharacters [])
      | d :: tail =>
        if d = ']' then .error (.here .trailingComma (d :: tail))
        else .error (.here .trailingCharacters (d :: tail))
    else .error (.here .trailingCharacters (c :: rest))

/-- The fields of a record in their order, from behind the opening bracket or the last element. -/
def readElements (first : Bool) (d : δ) : List (Field δ) → Reader δ
  | [], cs => readListEnd d cs
  | field :: fields, cs =>
    let next (cs : List Char) : Except Fault (δ × List Char) :=
      match field.read d cs with
      | .error f => .error f
      | .ok (d, rest) => readElements false d fields rest
    match skipBlanks cs with
    | [] => .error (.atEnd .list)
    | c :: rest =>
      if c = ']' then .ok (d, rest)
      else if first then next (c :: rest)
      else if c = ',' then
        match skipBlanks rest with
        | [] => .error (.atEnd .value)
        | e :: tail =>
          if e = ']' then .error (.here .trailingComma (e :: tail)) else next (e :: tail)
      else .error (.here .expectedCommaOrBracket (c :: rest))

/-- A record in either form. -/
def read (t : RecordType δ) : Reader δ := fun cs =>
  let cs := skipBlanks cs
  match cs with
  | [] => .error (.atEnd .value)
  | c :: rest =>
    if c = '\x7b' then
      match readMembers t.putMember ([], t.default) rest with
      | .error f => .error f
      | .ok ((_, d), rest) => .ok (d, rest)
    else if c = '[' then readElements true t.default t.fields rest
    else .error (wrongType ("struct " ++ t.name) cs)

/-- A text that holds one record and nothing else. -/
def parse (t : RecordType δ) (text : String) : Except Fault δ :=
  match t.read text.toList with
  | .error f => .error f
  | .ok (d, rest) =>
    match skipBlanks rest with
    | [] => .ok d
    | c :: tail => .error (.here .trailingCharacters (c :: tail))

end RecordType

end ResilientProxy.Json
