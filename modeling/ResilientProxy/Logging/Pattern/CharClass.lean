import ResilientProxy.Logging.Pattern.Depth
import ResilientProxy.Logging.Pattern.Escape

/-!
# Bracketed classes in patterns

A class holds characters, ranges, sets and other classes, with operators between them. What is read
of it is how deep it is nested.
-/

namespace ResilientProxy.Logging.Pattern

/-- What is read of a class. -/
structure ClassPart where
  /-- The depth of what is on the left of the last operator, if there was one. -/
  left : Option Nat
  /-- The depths of the items behind it. -/
  items : List Nat
  deriving DecidableEq, Repr

namespace ClassPart

def depth (p : ClassPart) : Nat :=
  match p.left with
  | none => joined p.items
  | some l => deepest [l, joined p.items] + 1

def add (p : ClassPart) (depth : Nat) : ClassPart := { p with items := depth :: p.items }

/-- Goes on behind an operator. -/
def operator (p : ClassPart) : ClassPart := ⟨some p.depth, []⟩

end ClassPart

/-- Reads hyphens, each of which stands for itself. -/
def readHyphens (m : Mode) : Nat → ClassPart → List Char → ClassPart × List Char
  | 0, p, cs => (p, cs)
  | fuel + 1, p, cs =>
    match skip m cs with
    | '-' :: cs => readHyphens m fuel (p.add 0) cs
    | cs => (p, cs)

/-- Reads the beginning of a class, from behind its bracket. A closing bracket right at the
beginning stands for itself, and so do hyphens. -/
def openClass (m : Mode) (cs : List Char) : Option (ClassPart × List Char) :=
  let (negated, cs) :=
    match skip m cs with
    | '^' :: cs => (true, cs)
    | cs => (false, cs)
  let (p, cs) := readHyphens m (cs.length + 1) ⟨none, []⟩ cs
  let (p, cs) :=
    match p.items, cs with
    | [], ']' :: cs => (p.add 0, cs)
    | _, cs => (p, cs)
  if (negated && !m.unicode) || (!p.items.isEmpty && !m.hasCharacters) then none else some (p, cs)

/-- The names of classes of ASCII characters. -/
def asciiClasses : List String :=
  ["alnum", "alpha", "ascii", "blank", "cntrl", "digit", "graph", "lower", "print", "punct",
    "space", "upper", "word", "xdigit"]

/-- Reads a named class, from behind its bracket, and whether its complement is meant. -/
def readNamed? : List Char → Option (Bool × List Char)
  | ':' :: cs =>
    let (negated, cs) :=
      match cs with
      | '^' :: cs => (true, cs)
      | cs => (false, cs)
    match cs.dropWhile (· != ':') with
    | ':' :: ']' :: rest =>
      if asciiClasses.contains (String.ofList (cs.takeWhile (· != ':'))) then some (negated, rest)
      else none
    | _ => none
  | _ => none

/-- A character of a class. A class of bytes has none outside ASCII. -/
def member (m : Mode) (code : Nat) (rest : List Char) : Option (Escaped × List Char) :=
  if !m.hasCharacters || (128 ≤ code && !m.unicode) then none else some (.literal code, rest)

/-- Reads one character of a class, or an escape. -/
def readItem (m : Mode) : List Char → Option (Escaped × List Char)
  | [] => none
  | '\\' :: cs =>
    match readEscape m cs with
    | some (.literal code, rest) => member m code rest
    | some (.set, rest) => some (.set, rest)
    | _ => none
  | c :: cs => member m c.toNat cs

/-- Reads on behind the hyphen of a range. -/
def readRangeEnd (m : Mode) (first : Escaped) (cs : List Char) : Option (List Char) :=
  match first, readItem m (skip m cs) with
  | .literal low, some (.literal high, rest) => if low ≤ high then some rest else none
  | _, _ => none

/-- Reads a character, a set or a range of characters. A hyphen makes no range where the end of the
class or another hyphen is seen behind it. -/
def readRange (m : Mode) (cs : List Char) : Option (List Char) :=
  match readItem m cs with
  | none => none
  | some (first, rest) =>
    match skip m rest with
    | [] => none
    | '-' :: rest =>
      match peek? m rest with
      | some ']' => some ('-' :: rest)
      | some '-' => some ('-' :: rest)
      | _ => readRangeEnd m first rest
    | rest => some rest

/-- Reads a class up to the end of the outermost around it, where `outer` are the classes around it.
The result is its depth and what is behind it. -/
def readClass (m : Mode) : Nat → ClassPart → List ClassPart → List Char → Option (Nat × List Char)
  | 0, _, _, _ => none
  | fuel + 1, p, outer, cs =>
    match skip m cs with
    | [] => none
    | '[' :: cs =>
      match readNamed? cs with
      | some (negated, rest) =>
        if !m.hasCharacters || (negated && !m.unicode) then none
        else readClass m fuel (p.add 0) outer rest
      | none =>
        match openClass m cs with
        | some (inner, rest) => readClass m fuel inner (p :: outer) rest
        | none => none
    | ']' :: cs =>
      match outer with
      | [] => some (p.depth + 1, cs)
      | o :: outer => readClass m fuel (o.add (p.depth + 1)) outer cs
    | '&' :: '&' :: cs => readClass m fuel p.operator outer cs
    | '-' :: '-' :: cs => readClass m fuel p.operator outer cs
    | '~' :: '~' :: cs => readClass m fuel p.operator outer cs
    | cs =>
      match readRange m cs with
      | some rest => readClass m fuel (p.add 0) outer rest
      | none => none

/-- Reads a class, from behind its bracket. -/
def readBracketed (m : Mode) (cs : List Char) : Option (Nat × List Char) :=
  match openClass m cs with
  | some (p, rest) => readClass m (rest.length + 1) p [] rest
  | none => none

end ResilientProxy.Logging.Pattern
