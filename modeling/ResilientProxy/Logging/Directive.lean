import ResilientProxy.Logging.Level
import ResilientProxy.Logging.Pattern

/-!
# Directives of a log filter

A directive sets the level of the events of a target, `target[span{field=pattern}]=level`. All its
parts may be left out, but not all at once. One that asks for a span, or for the value of a field,
speaks only of what happens within spans.
-/

namespace ResilientProxy.Logging

/-- Why a text is no filter. -/
inductive FilterFault where
  | unknownLevel
  | malformed
  /-- The value of a field is no pattern. -/
  | badValue (fault : Pattern.Fault)
  deriving DecidableEq, Repr

def FilterFault.text : FilterFault → String
  | unknownLevel =>
    "error parsing level filter: expected one of \"off\", \"error\", \"warn\", \"info\", "
      ++ "\"debug\", \"trace\", or a number 0-5"
  | malformed => "invalid filter directive"
  | badValue .malformed => "invalid field filter: error building NFA"
  | badValue .wordBoundary =>
    "invalid field filter: unsupported regex feature for DFAs: cannot build DFAs for regexes with "
      ++ "Unicode word boundaries; switch to ASCII word boundaries, or heuristically enable "
      ++ "Unicode word boundaries or use a different regex engine"

/-! ## Fields -/

/-- What a directive asks of a field. -/
structure FieldCondition where
  name : String
  /-- Whether it asks for a value, and not only that there is such a field. -/
  valued : Bool
  deriving DecidableEq, Repr

/-- Whether a text is a decimal number behind a plus sign. It is not a pattern, since there is
nothing in front to repeat, but a value all the same. -/
def isPositive : List Char → Bool
  | '+' :: cs =>
    let whole := cs.takeWhile Char.isDigit
    let rest := cs.dropWhile Char.isDigit
    match rest with
    | '.' :: cs =>
      (!whole.isEmpty || (cs.takeWhile Char.isDigit) != [])
        && isExponent (cs.dropWhile Char.isDigit)
    | cs =>
      if whole.isEmpty then
        ["inf", "infinity", "nan"].contains ((String.ofList cs).map Char.toLower)
      else isExponent cs
  | _ => false
where
  isExponent : List Char → Bool
    | [] => true
    | e :: cs =>
      (e == 'e' || e == 'E')
        && match cs with
          | [] => false
          | c :: cs =>
            let digits := if c = '+' ∨ c = '-' then cs else c :: cs
            !digits.isEmpty && digits.all Char.isDigit

/-- What is wrong with the value that a field is to have, if anything is. -/
def valueFault? (value : List Char) : Option Pattern.Fault :=
  if isPositive value then none else Pattern.fault? value

/-- Reads a name, or a name with a value. -/
def FieldCondition.ofText? (text : List Char) : Except FilterFault FieldCondition :=
  let name := String.ofList (text.takeWhile (· != '='))
  match text.dropWhile (· != '=') with
  | [] => if text.isEmpty then .error .malformed else .ok ⟨name, false⟩
  | _ :: rest =>
    match valueFault? (rest.takeWhile (· != '=')) with
    | some fault => .error (.badValue fault)
    | none => .ok ⟨name, true⟩

/-! ## Directives -/

structure Directive where
  /-- How the targets start that the directive is about; all targets where there is none. -/
  target : Option String
  /-- The span that events have to be within. -/
  span : Option String
  field : Option FieldCondition
  level : Level
  deriving DecidableEq, Repr

namespace Directive

/-- Whether a target may start with `c`. -/
def startsTarget (c : Char) : Bool :=
  isAlphanumeric c || c == '-' || c == ':' || c == '_'

/-- The text without blanks at either end. -/
def trimmed (text : List Char) : List Char :=
  ((text.dropWhile isBlankChar).reverse.dropWhile isBlankChar).reverse

/-- The number of bytes of a text. -/
def width : List Char → Nat
  | [] => 0
  | c :: cs => c.utf8Size + width cs

/-- The first bytes of a text, and the others. -/
def splitBytes : Nat → List Char → List Char × List Char
  | 0, cs => ([], cs)
  | _, [] => ([], [])
  | n + 1, c :: cs =>
    let (first, rest) := splitBytes (n + 1 - c.utf8Size) cs
    (c :: first, rest)

/-- How far a directive is read. The marks between its parts are looked for in the text without
blanks at the ends, but the parts are cut from the text as it stands, at the same number of bytes
from the beginning; so blanks in front of a directive displace its parts. -/
structure Cursor where
  /-- Where marks are looked for. -/
  marks : List Char
  /-- Where parts are cut from. -/
  parts : List Char

/-- The part up to the first of the given marks, the mark, and what is behind it. -/
def Cursor.cut (k : Cursor) (mark : Char → Bool) : Option (List Char × Char × Cursor) :=
  let before := k.marks.takeWhile fun c => !mark c
  let (part, parts) := splitBytes (width before) k.parts
  match k.marks.drop before.length with
  | [] => none
  | c :: rest => some (part, c, ⟨rest, (splitBytes c.utf8Size parts).2⟩)

/-- A level by itself, or else a target by itself, which lets everything of the target through. -/
def ofWord (word : List Char) : Directive :=
  match Level.ofText? (String.ofList word) with
  | some level => ⟨none, none, none, level⟩
  | none => ⟨some (String.ofList word), none, none, .trace⟩

/-- The level behind the equals sign; without a level everything gets through. -/
def levelOf (text : List Char) : Except FilterFault Level :=
  if text.isEmpty then .ok .trace
  else
    match Level.ofText? (String.ofList text) with
    | some level => .ok level
    | none => .error .unknownLevel

/-- Reads on behind the closing bracket. -/
def ofTail (target span : Option String) (field : Option FieldCondition) (k : Cursor) :
    Except FilterFault Directive :=
  match k.marks with
  | [] => .ok ⟨target, span, field, .trace⟩
  | '=' :: _ => (levelOf (k.parts.drop 1)).map fun level => ⟨target, span, field, level⟩
  | _ => .error .malformed

/-- Reads on behind the opening brace. -/
def ofField (target span : Option String) (k : Cursor) : Except FilterFault Directive :=
  match k.cut (· == '}') with
  | none => .error .malformed
  | some (text, _, k) =>
    match FieldCondition.ofText? text with
    | .error fault => .error fault
    | .ok field =>
      match k.marks with
      | ']' :: marks => ofTail target span (some field) ⟨marks, k.parts.drop 1⟩
      | _ => .error .malformed

/-- Reads on behind the opening bracket. A span without a name in front of a field is no span. -/
def ofSpan (target : Option String) (k : Cursor) : Except FilterFault Directive :=
  match k.cut fun c => c == ']' || c == '{' with
  | none => .error .malformed
  | some (name, ']', k) => ofTail target (some (String.ofList name)) none k
  | some (name, _, k) =>
    ofField target (if name.isEmpty then none else some (String.ofList name)) k

/-- Reads one directive. -/
def ofText? (text : List Char) : Except FilterFault Directive :=
  let k : Cursor := ⟨trimmed text, text⟩
  match k.marks with
  | [] => .error .malformed
  | '[' :: marks => ofSpan none ⟨marks, text.drop 1⟩
  | c :: _ =>
    if startsTarget c then
      match k.cut fun c => c == '=' || c == '[' with
      | none => .ok (ofWord text)
      | some (target, '=', k) =>
        (levelOf k.parts).map fun level => ⟨some (String.ofList target), none, none, level⟩
      | some (target, _, k) => ofSpan (some (String.ofList target)) k
    else .error .malformed

/-- Whether the directive also speaks of what happens outside of spans. -/
def isStatic (d : Directive) : Bool :=
  d.span.isNone && d.field.all (!·.valued)

/-- Whether the directive is about an event of a target with the given fields. As long as there is
no event, its fields may be any. -/
def covers (d : Directive) (target : String) (fields : Option (List String)) : Bool :=
  d.isStatic && d.target.all (fun start => start.toList.isPrefixOf target.toList)
    && d.field.all fun f => fields.all (·.contains f.name)

/-- How closely the directive fits the targets that it covers. -/
def reach (d : Directive) : Nat :=
  match d.target with
  | none => 0
  | some start => start.length + 1

/-- Whether the directive says more about the fields of an event than another. -/
def asksMore (d e : Directive) : Bool :=
  match d.field, e.field with
  | some f, some g => g.name < f.name
  | some _, none => true
  | none, _ => false

/-- Whether the directive goes before another that covers the same event. -/
def outranks (d e : Directive) : Bool :=
  e.reach < d.reach || (d.reach == e.reach && d.asksMore e)

end Directive

end ResilientProxy.Logging
