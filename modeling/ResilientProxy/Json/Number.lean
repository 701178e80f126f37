import ResilientProxy.Json.Lexeme

/-!
# Numbers

A number without a point or an exponent that fits 64 bits is read as an integer, exactly. Any other
is floating point: its leading digits, as many as fit 64 bits, are scaled by a power of ten with one
or more rounded steps, so the result need not be the nearest number to the decimal.
-/

namespace ResilientProxy.Json

inductive Number where
  | natural (n : UInt64)
  /-- A number below zero. -/
  | negative (n : Int)
  | float (negative : Bool) (magnitude : Rat)
  deriving DecidableEq, Repr

def digitValue (c : Char) : Nat := c.toNat - '0'.toNat

/-- Takes further digits onto `n` for as long as the result stays below `limit`. -/
def takeDigits (limit n : Nat) : List Char → Nat × List Char
  | [] => (n, [])
  | c :: cs =>
    if c.isDigit ∧ n * 10 + digitValue c < limit then takeDigits limit (n * 10 + digitValue c) cs
    else (n, c :: cs)

def dropDigits (cs : List Char) : List Char := cs.dropWhile Char.isDigit

def startsWithDigit : List Char → Bool
  | [] => false
  | c :: _ => c.isDigit

/-- One more than the largest significand. -/
def significandLimit : Nat := UInt64.size

/-- One more than the largest exponent that can be written: `2 ^ 31`. -/
def exponentLimit : Nat := 2147483648

/-- The rounded power of ten, up to `10 ^ 308`. -/
def roundedPowerOfTen (n : Nat) : Rat :=
  match Binary64.round ((10 : Rat) ^ n) with
  | .finite q => q
  | _ => 0

def finitePart : Binary64 → Rat
  | .finite q => q
  | _ => 0

/-- `f / 10 ^ n` by rounded divisions, each by at most `10 ^ 308`. -/
def scaleDown (f : Rat) (n : Nat) : Rat :=
  if n ≤ 308 then finitePart (Binary64.round (f / roundedPowerOfTen n))
  else if f = 0 then 0
  else scaleDown (finitePart (Binary64.round (f / roundedPowerOfTen 308))) (n - 308)
termination_by n

/-- `significand * 10 ^ exponent` in floating point; too large a number has no value. -/
def scale? (significand : Nat) (exponent : Int) : Option Rat :=
  let f := finitePart (Binary64.ofNat significand)
  if exponent < 0 then some (scaleDown f exponent.natAbs)
  else if exponent.natAbs ≤ 308 then
    match Binary64.round (f * roundedPowerOfTen exponent.natAbs) with
    | .finite q => some q
    | _ => none
  else if f = 0 then some 0
  else none

/-- The magnitude with the given significand and exponent, in front of `rest`. -/
def scaled (significand : Nat) (exponent : Int) : Reader Rat := fun rest =>
  match scale? significand exponent with
  | some q => .ok (q, rest)
  | none => .error (.before .numberOutOfRange rest)

def takeSign : List Char → Bool × List Char
  | '+' :: cs => (false, cs)
  | '-' :: cs => (true, cs)
  | cs => (false, cs)

/-- Reads the digits of an exponent, from behind the `e`. -/
def readExponent (significand : Nat) (exponent : Int) : Reader Rat := fun cs =>
  let (negative, cs) := takeSign cs
  match cs with
  | [] => .error (.atEnd .value)
  | c :: _ =>
    if c.isDigit then
      let (n, rest) := takeDigits exponentLimit 0 cs
      if startsWithDigit rest then
        if significand ≠ 0 ∧ !negative then .error (.here .numberOutOfRange rest)
        else .ok (0, dropDigits rest)
      else scaled significand (if negative then exponent - n else exponent + n) rest
    else .error (.here .invalidNumber cs)

/-- What may stand behind the digits of a floating-point number. -/
def readScale (significand : Nat) (exponent : Int) : Reader Rat
  | 'e' :: cs => readExponent significand exponent cs
  | 'E' :: cs => readExponent significand exponent cs
  | cs => scaled significand exponent cs

/-- Reads the digits behind a point. Digits that would not fit the significand any more are
dropped. -/
def readFraction (significand : Nat) (exponent : Int) : Reader Rat := fun cs =>
  let (n, rest) := takeDigits significandLimit significand cs
  let exponent := exponent - ((cs.length - rest.length : Nat) : Int)
  if startsWithDigit rest then readScale n exponent (dropDigits rest)
  else if rest.length = cs.length then
    match rest with
    | [] => .error (.atEnd .value)
    | _ => .error (.here .invalidNumber rest)
  else readScale n exponent rest

/-- Reads on behind the digits of the integral part, of which `dropped` did not fit. -/
def readFloat (significand : Nat) (dropped : Nat) : Reader Rat
  | '.' :: cs => readFraction significand dropped cs
  | cs => readScale significand dropped cs

def startsFloat : List Char → Bool
  | [] => false
  | c :: _ => c == '.' || c == 'e' || c == 'E'

def asFloat (negative : Bool) (r : Except Fault (Rat × List Char)) :
    Except Fault (Number × List Char) :=
  match r with
  | .ok (q, rest) => .ok (.float negative q, rest)
  | .error f => .error f

/-- An integer read without loss, or as a float: `-0`, and what lies below the 64-bit integers. -/
def integer (negative : Bool) (n : Nat) : Number :=
  if !negative then .natural (UInt64.ofNat n)
  else if n = 0 ∨ -(n : Int) < Int64.minValue.toInt then .float true (finitePart (Binary64.ofNat n))
  else .negative (-(n : Int))

/-- Reads a number, from behind its sign. -/
def readNumber (negative : Bool) : Reader Number := fun cs =>
  match cs with
  | [] => .error (.atEnd .value)
  | c :: tail =>
    if c = '0' then
      if startsWithDigit tail then .error (.here .invalidNumber tail)
      else if startsFloat tail then asFloat negative (readFloat 0 0 tail)
      else .ok (integer negative 0, tail)
    else if c.isDigit then
      let (n, rest) := takeDigits significandLimit 0 cs
      if startsWithDigit rest then
        let rest' := dropDigits rest
        asFloat negative (readFloat n (rest.length - rest'.length) rest')
      else if startsFloat rest then asFloat negative (readFloat n 0 rest)
      else .ok (integer negative n, rest)
    else .error (.here .invalidNumber cs)

/-- The text behind an exponent that needs no value, from behind the `e`. -/
def skipExponent (cs : List Char) : Except Fault (List Char) :=
  let rest := (takeSign cs).2
  if startsWithDigit rest then .ok (dropDigits rest) else .error (.here .invalidNumber rest)

def skipScale : List Char → Except Fault (List Char)
  | 'e' :: cs => skipExponent cs
  | 'E' :: cs => skipExponent cs
  | cs => .ok cs

def skipFraction : List Char → Except Fault (List Char)
  | '.' :: cs =>
    if startsWithDigit cs then skipScale (dropDigits cs) else .error (.here .invalidNumber cs)
  | cs => skipScale cs

/-- The text behind a number that needs no value, from behind its sign. -/
def skipNumber : List Char → Except Fault (List Char)
  | [] => .error (.here .invalidNumber [])
  | c :: cs =>
    if c = '0' then
      if startsWithDigit cs then .error (.here .invalidNumber cs) else skipFraction cs
    else if c.isDigit then skipFraction (dropDigits cs)
    else .error (.here .invalidNumber (c :: cs))

end ResilientProxy.Json
