import ResilientProxy.Json.Fault

/-!
# Blanks, literals and strings

The smallest pieces of a JSON text. A string is either read, which decodes its escapes and checks
that surrogates come in pairs, or skipped, which checks its form alone.
-/

namespace ResilientProxy.Json

/-- A reader takes what it wants off the front of a text and hands back the rest. -/
abbrev Reader (α : Type) := List Char → Except Fault (α × List Char)

def isBlank (c : Char) : Bool := c == ' ' || c == '\t' || c == '\n' || c == '\r'

/-- The text behind any blanks. -/
def skipBlanks (cs : List Char) : List Char := cs.dropWhile isBlank

/-- The text behind the letters of a literal. -/
def skipLiteral : List Char → List Char → Except Fault (List Char)
  | [], cs => .ok cs
  | _ :: _, [] => .error (.atEnd .value)
  | l :: ls, c :: cs =>
    if c = l then skipLiteral ls cs else .error (.here .expectedLiteral (c :: cs))

def hexValue? (c : Char) : Option Nat :=
  if c.isDigit then some (c.toNat - '0'.toNat)
  else if 'a' ≤ c ∧ c ≤ 'f' then some (c.toNat - 'a'.toNat + 10)
  else if 'A' ≤ c ∧ c ≤ 'F' then some (c.toNat - 'A'.toNat + 10)
  else none

/-- The value of four hexadecimal digits. -/
def hexValue4? (a b c d : Char) : Option Nat := do
  let a ← hexValue? a
  let b ← hexValue? b
  let c ← hexValue? c
  let d ← hexValue? d
  return ((a * 16 + b) * 16 + c) * 16 + d

/-- The four digits behind `\u`. Where there are other characters, four bytes count as read. -/
def readHex4 (cs : List Char) : Except Fault (Nat × List Char) :=
  match cs with
  | a :: b :: c :: d :: rest =>
    match hexValue4? a b c d with
    | some n => .ok (n, rest)
    | none => .error ⟨.invalidEscape, cs, 4⟩
  | _ => if 4 ≤ byteCount cs then .error ⟨.invalidEscape, cs, 4⟩ else .error (.atEnd .string)

def isHighSurrogate (n : Nat) : Bool := 0xD800 ≤ n && n ≤ 0xDBFF

def isLowSurrogate (n : Nat) : Bool := 0xDC00 ≤ n && n ≤ 0xDFFF

/-- The code point of a surrogate pair. -/
def ofSurrogates (high low : Nat) : Nat := (high - 0xD800) * 1024 + (low - 0xDC00) + 0x10000

/-- The character that a backslash and `c` stand for, other than `\u`. -/
def simpleEscape? (c : Char) : Option Char :=
  if c = '"' ∨ c = '\\' ∨ c = '/' then some c
  else if c = 'b' then some '\x08'
  else if c = 'f' then some '\x0c'
  else if c = 'n' then some '\n'
  else if c = 'r' then some '\r'
  else if c = 't' then some '\t'
  else none

/-- The second half of a surrogate pair, of which `high` was the first. -/
def readLowSurrogate (high : Nat) : Reader Char
  | [] => .error (.atEnd .string)
  | '\\' :: [] => .error (.atEnd .string)
  | '\\' :: 'u' :: cs =>
    match readHex4 cs with
    | .error f => .error f
    | .ok (low, rest) =>
      if isLowSurrogate low then .ok (Char.ofNat (ofSurrogates high low), rest)
      else .error (.before .loneSurrogate rest)
  | '\\' :: cs => .error (.here .unfinishedSurrogatePair cs)
  | cs => .error (.here .unfinishedSurrogatePair cs)

/-- The character that the text behind a backslash stands for. -/
def readEscape : Reader Char
  | [] => .error (.atEnd .string)
  | c :: cs =>
    if c = 'u' then
      match readHex4 cs with
      | .error f => .error f
      | .ok (n, rest) =>
        if isLowSurrogate n then .error (.before .loneSurrogate rest)
        else if isHighSurrogate n then readLowSurrogate n rest
        else .ok (Char.ofNat n, rest)
    else
      match simpleEscape? c with
      | some d => .ok (d, cs)
      | none => .error (.here .invalidEscape (c :: cs))

/-- The text behind what follows a backslash, whatever character it stands for. -/
def skipEscape : List Char → Except Fault (List Char)
  | [] => .error (.atEnd .string)
  | c :: cs =>
    if c = 'u' then
      match readHex4 cs with
      | .error f => .error f
      | .ok (_, rest) => .ok rest
    else if (simpleEscape? c).isSome then .ok cs
    else .error (.here .invalidEscape (c :: cs))

theorem length_of_readHex4 {cs rest : List Char} {n : Nat} (h : readHex4 cs = .ok (n, rest)) :
    rest.length ≤ cs.length := by
  unfold readHex4 at h
  split at h
  · split at h
    · simp_all; omega
    · simp at h
  · split at h <;> simp at h

theorem length_of_readLowSurrogate {high : Nat} {cs rest : List Char} {c : Char}
    (h : readLowSurrogate high cs = .ok (c, rest)) : rest.length ≤ cs.length := by
  unfold readLowSurrogate at h
  split at h
  · simp at h
  · simp at h
  · split at h
    · simp at h
    · next heq =>
      have := length_of_readHex4 heq
      split at h
      · simp only [Except.ok.injEq, Prod.mk.injEq] at h
        obtain ⟨-, rfl⟩ := h
        simp only [List.length_cons]
        omega
      · simp at h
  · simp at h
  · simp at h

theorem length_of_readEscape {cs rest : List Char} {c : Char}
    (h : readEscape cs = .ok (c, rest)) : rest.length ≤ cs.length := by
  unfold readEscape at h
  split at h
  · simp at h
  · split at h
    · split at h
      · simp at h
      · next heq =>
        have := length_of_readHex4 heq
        split at h
        · simp at h
        · split at h
          · have := length_of_readLowSurrogate h
            simp only [List.length_cons]
            omega
          · simp only [Except.ok.injEq, Prod.mk.injEq] at h
            obtain ⟨-, rfl⟩ := h
            simp only [List.length_cons]
            omega
    · split at h
      · simp only [Except.ok.injEq, Prod.mk.injEq] at h
        obtain ⟨-, rfl⟩ := h
        simp
      · simp at h

theorem length_of_skipEscape {cs rest : List Char} (h : skipEscape cs = .ok rest) :
    rest.length ≤ cs.length := by
  unfold skipEscape at h
  split at h
  · simp at h
  · split at h
    · split at h
      · simp at h
      · next heq =>
        have := length_of_readHex4 heq
        simp only [Except.ok.injEq] at h
        subst h
        simp only [List.length_cons]
        omega
    · split at h
      · simp_all
      · simp at h

/-- The characters of a string, from behind its opening quote. -/
def readString (cs : List Char) : Except Fault (List Char × List Char) :=
  match cs with
  | [] => .error (.atEnd .string)
  | c :: rest =>
    if c = '"' then .ok ([], rest)
    else if c = '\\' then
      match h : readEscape rest with
      | .error f => .error f
      | .ok (d, rest') =>
        have := length_of_readEscape h
        match readString rest' with
        | .error f => .error f
        | .ok (ds, rest'') => .ok (d :: ds, rest'')
    else if c.toNat < 0x20 then .error (.here .controlCharacter (c :: rest))
    else
      match readString rest with
      | .error f => .error f
      | .ok (ds, rest') => .ok (c :: ds, rest')
termination_by cs.length

/-- The text behind a string, from behind its opening quote. -/
def skipString (cs : List Char) : Except Fault (List Char) :=
  match cs with
  | [] => .error (.atEnd .string)
  | c :: rest =>
    if c = '"' then .ok rest
    else if c = '\\' then
      match h : skipEscape rest with
      | .error f => .error f
      | .ok rest' =>
        have := length_of_skipEscape h
        skipString rest'
    else if c.toNat < 0x20 then .error (.before .controlCharacter (c :: rest))
    else skipString rest
termination_by cs.length

end ResilientProxy.Json
