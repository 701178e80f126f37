import ResilientProxy.Logging.Pattern.Mode

/-!
# Escapes in patterns

A backslash takes its meaning from a sign, or gives one to a letter. There are no tables of the
characters of all scripts, so the sets that letters stand for are those of ASCII.
-/

namespace ResilientProxy.Logging.Pattern

/-- What an escape stands for. -/
inductive Escaped where
  | literal (code : Nat)
  /-- A set of characters. -/
  | set
  /-- The beginning or the end of the text. -/
  | anchor
  /-- The beginning or the end of a word. -/
  | boundary
  deriving DecidableEq, Repr

def hexValue? (c : Char) : Option Nat :=
  if c.isDigit then some (c.toNat - '0'.toNat)
  else if 'a' ≤ c ∧ c ≤ 'f' then some (c.toNat - 'a'.toNat + 10)
  else if 'A' ≤ c ∧ c ≤ 'F' then some (c.toNat - 'A'.toNat + 10)
  else none

/-- Reads hexadecimal digits, as many as given. -/
def readHex (m : Mode) : Nat → Nat → List Char → Option (Nat × List Char)
  | 0, value, cs => some (value, cs)
  | n + 1, value, cs =>
    match skip m cs with
    | [] => none
    | c :: cs =>
      match hexValue? c with
      | some d => readHex m n (value * 16 + d) cs
      | none => none

/-- Reads the code point of a character. A single byte outside ASCII is no character. -/
def readCode (m : Mode) (digits : Nat) (cs : List Char) : Option (Escaped × List Char) :=
  match readHex m digits 0 cs with
  | some (code, rest) =>
    if ¬ code.isValidChar ∨ (digits = 2 ∧ 128 ≤ code ∧ ¬ m.unicode) then none
    else some (.literal code, rest)
  | none => none

/-- Reads what stands behind a backslash. There are no properties of characters, and no complements
of sets: in bytes they would not be characters. -/
def readEscape (m : Mode) : List Char → Option (Escaped × List Char)
  | [] => none
  | 'x' :: cs => readCode m 2 cs
  | 'u' :: cs => readCode m 4 cs
  | 'U' :: cs => readCode m 8 cs
  | 'a' :: cs => some (.literal 7, cs)
  | 't' :: cs => some (.literal 9, cs)
  | 'n' :: cs => some (.literal 10, cs)
  | 'v' :: cs => some (.literal 11, cs)
  | 'f' :: cs => some (.literal 12, cs)
  | 'r' :: cs => some (.literal 13, cs)
  | c :: cs =>
    if ['d', 's', 'w'].contains c then if m.unicode then none else some (.set, cs)
    else if ['A', 'z'].contains c then some (.anchor, cs)
    else if ['b', 'B', '<', '>'].contains c then some (.boundary, cs)
    else if c.isAlphanum || 128 ≤ c.toNat then none
    else some (.literal c.toNat, cs)

end ResilientProxy.Logging.Pattern
