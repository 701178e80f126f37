import ResilientProxy.Text.Blank

/-!
# Modes of patterns

Flags within a pattern say how what follows is read. In the spaced mode blanks have no meaning, and
comments run from a hash sign to the end of the line.
-/

namespace ResilientProxy.Logging.Pattern

/-- How the text of a pattern is read. -/
structure Mode where
  /-- Characters are those of any script. -/
  unicode : Bool
  /-- Letters stand for both their cases. -/
  caseless : Bool
  /-- Blanks and comments have no meaning. -/
  spaced : Bool
  deriving DecidableEq, Repr

namespace Mode

/-- The mode in which a pattern begins. -/
def default : Mode := ⟨true, false, false⟩

/-- Whether characters can be matched. The cases of letters of any script are not known. -/
def hasCharacters (m : Mode) : Bool := !(m.unicode && m.caseless)

/-- The mode after flags were set or cleared. -/
def withFlags (m : Mode) (flags : List (Char × Bool)) : Mode :=
  ⟨(flags.lookup 'u').getD m.unicode, (flags.lookup 'i').getD m.caseless,
    (flags.lookup 'x').getD m.spaced⟩

end Mode

/-- Passes over blanks and comments, from within a comment or not. -/
def skipFree : Bool → List Char → List Char
  | _, [] => []
  | true, c :: cs => skipFree (c != '\n') cs
  | false, c :: cs =>
    if isBlankChar c then skipFree false cs else if c = '#' then skipFree true cs else c :: cs

def skip (m : Mode) (cs : List Char) : List Char := if m.spaced then skipFree false cs else cs

/-- The first character that is not blank, where a hash sign is passed over once. -/
def firstSolid? : Bool → List Char → Option Char
  | _, [] => none
  | hash, c :: cs =>
    if isBlankChar c then firstSolid? hash cs
    else if c = '#' ∧ ¬ hash then firstSolid? true cs
    else some c

/-- Looks ahead without reading on. In the spaced mode blanks are passed over here, but a comment is
looked into: of it only the sign in front counts as blank. -/
def peek? (m : Mode) (cs : List Char) : Option Char :=
  if m.spaced then (firstSolid? false cs).or cs.head? else cs.head?

end ResilientProxy.Logging.Pattern
