import ResilientProxy.Logging.Pattern.CharClass
import ResilientProxy.Text.Alphabetic

/-!
# Patterns

Regular expressions as far as it matters whether they are well formed: groups with their flags,
repetitions, bracketed classes and escapes. Counted repetitions and all else that is written in
braces is left out, because a filter cannot contain it. Patterns are read without tables of the
characters of all scripts: sets such as that of the digits are those of ASCII, and so are letters
that stand for both their cases. The automata that patterns are turned into know no word boundaries
but those of ASCII.
-/

namespace ResilientProxy.Logging.Pattern

/-- Why a text is no pattern. -/
inductive Fault where
  | malformed
  /-- It is well formed, but asks for a boundary of words of any script. -/
  | wordBoundary
  deriving DecidableEq, Repr

/-- What is read of a group, or of the pattern itself. -/
structure Frame where
  mode : Mode
  /-- The depths of the alternatives in front of this one. -/
  branches : List Nat
  /-- The depths of the elements of this alternative, the last one first. -/
  row : List Nat
  deriving DecidableEq, Repr

namespace Frame

/-- A group of which nothing is read. -/
def empty (m : Mode) : Frame := ⟨m, [], []⟩

def depth (f : Frame) : Nat := joined (joined f.row :: f.branches)

/-- Goes on with the next alternative. -/
def alternative (f : Frame) : Frame := { f with branches := joined f.row :: f.branches, row := [] }

def add (f : Frame) (depth : Nat) : Frame := { f with row := depth :: f.row }

/-- Repeats the last element. -/
def repeated (f : Frame) : Frame :=
  match f.row with
  | [] => f
  | d :: ds => { f with row := (d + 1) :: ds }

end Frame

/-- How far a pattern is read. -/
structure Place where
  /-- The innermost group that is open. -/
  here : Frame
  /-- The groups around it, the innermost first. -/
  outer : List Frame
  /-- Whether there is something in front that can be repeated. -/
  operand : Bool
  /-- Whether a boundary of words of any script was asked for. -/
  boundary : Bool
  /-- The names of groups. -/
  names : List (List Char)
  deriving DecidableEq, Repr

namespace Place

def start : Place := ⟨.empty .default, [], false, false, []⟩

def mode (p : Place) : Mode := p.here.mode

/-- Opens a group. -/
def enter (p : Place) (mode : Mode) : Place :=
  { p with here := .empty mode, outer := p.here :: p.outer, operand := false }

/-- Closes the innermost group. -/
def leave? (p : Place) : Option Place :=
  match p.outer with
  | [] => none
  | f :: fs => some { p with here := f.add (p.here.depth + 1), outer := fs, operand := true }

/-- Takes up something of the given depth that can be repeated. -/
def add (p : Place) (depth : Nat) : Place := { p with here := p.here.add depth, operand := true }

/-- Takes up a character that stands for itself. -/
def addCharacter? (p : Place) : Option Place :=
  if p.mode.hasCharacters then some (p.add 0) else none

/-- Takes up flags for the rest of the group. -/
def addFlags (p : Place) (flags : List (Char × Bool)) : Place :=
  { p with here := { p.here.add 0 with mode := p.mode.withFlags flags }, operand := false }

end Place

/-! ## Groups -/

/-- Whether a name is fit for a group. -/
def isGroupName : List Char → Bool
  | [] => false
  | c :: cs =>
    (c == '_' || isAlphabetic c)
      && cs.all fun c => ['_', '.', '[', ']'].contains c || isAlphanumeric c

/-- Opens a group with a name, from behind the angle bracket. -/
def openNamed (p : Place) (cs : List Char) : Option (Place × List Char) :=
  let name := cs.takeWhile (· != '>')
  match cs.dropWhile (· != '>') with
  | [] => none
  | _ :: rest =>
    if isGroupName name && !p.names.contains name then
      some ({ p with names := name :: p.names }.enter p.mode, rest)
    else none

/-- Reads flags, each with whether it is set or cleared, up to the colon or parenthesis behind
them. -/
def readFlags (seen : List (Char × Bool)) (set : Bool) :
    List Char → Option (List (Char × Bool) × List Char)
  | [] => none
  | ':' :: cs => some (seen, ':' :: cs)
  | ')' :: cs => some (seen, ')' :: cs)
  | '-' :: cs =>
    match cs with
    | ':' :: _ => none
    | ')' :: _ => none
    | cs => if set then readFlags seen false cs else none
  | c :: cs =>
    if ['i', 'm', 's', 'U', 'u', 'R', 'x'].contains c && !seen.any (·.1 == c) then
      readFlags ((c, set) :: seen) set cs
    else none

/-- Opens a group, from behind its parenthesis, or sets flags for what follows. -/
def openGroup (p : Place) (cs : List Char) : Option (Place × List Char) :=
  match skip p.mode cs with
  | '?' :: 'P' :: '<' :: cs => openNamed p cs
  | '?' :: '<' :: cs => openNamed p cs
  | '?' :: cs =>
    match readFlags [] true cs with
    | some (flags, ':' :: rest) => some (p.enter (p.mode.withFlags flags), rest)
    | some (flags, _ :: rest) => if flags.isEmpty then none else some (p.addFlags flags, rest)
    | _ => none
  | cs => some (p.enter p.mode, cs)

/-! ## Whole patterns -/

/-- Reads on behind a sign of repetition. A question mark right behind it belongs to it. -/
def repeatLast (p : Place) (cs : List Char) : Option (Place × List Char) :=
  if p.operand then
    let rest :=
      match cs with
      | '?' :: cs => cs
      | cs => cs
    some ({ p with here := p.here.repeated }, rest)
  else none

/-- Reads one element of a pattern, which starts with `c`. -/
def readElement (p : Place) (c : Char) (cs : List Char) : Option (Place × List Char) :=
  match c with
  | '(' => openGroup p cs
  | ')' => p.leave?.map (·, cs)
  | '|' => some ({ p with here := p.here.alternative, operand := false }, cs)
  | '[' => (readBracketed p.mode cs).map fun (depth, rest) => (p.add depth, rest)
  | '\\' =>
    match readEscape p.mode cs with
    | some (.literal _, rest) => p.addCharacter?.map (·, rest)
    | some (.boundary, rest) =>
      some ({ p with boundary := p.boundary || p.mode.unicode }.add 0, rest)
    | some (_, rest) => some (p.add 0, rest)
    | none => none
  | '.' => if p.mode.unicode then some (p.add 0, cs) else none
  | '{' => none
  | c =>
    if ['?', '*', '+'].contains c then repeatLast p cs
    else if ['^', '$'].contains c then some (p.add 0, cs)
    else p.addCharacter?.map (·, cs)

/-- Reads a pattern up to its end. -/
def read : Nat → Place → List Char → Option Place
  | 0, _, _ => none
  | fuel + 1, p, cs =>
    match skip p.mode cs with
    | [] => some p
    | c :: cs =>
      match readElement p c cs with
      | some (p, rest) => read fuel p rest
      | none => none

/-- Finds out what is wrong with a pattern, if anything is. -/
def fault? (cs : List Char) : Option Fault :=
  match read (cs.length + 1) .start cs with
  | none => some .malformed
  | some p =>
    if !p.outer.isEmpty || depthLimit < p.here.depth then some .malformed
    else if p.boundary then some .wordBoundary
    else none

end ResilientProxy.Logging.Pattern
