import ResilientProxy.Json.Lexeme

/-!
# The grammar of JSON

Which texts are JSON, said without a reader. Blanks may stand around every part. A string either
has the form of one, or is a way to write a given text: half a surrogate pair has the form, but
writes nothing.
-/

namespace ResilientProxy.Json

def IsBlanks (w : List Char) : Prop := ∀ c ∈ w, isBlank c = true

instance (w : List Char) : Decidable (IsBlanks w) :=
  List.decidableBAll (isBlank · = true) w

theorem isBlanks_nil : IsBlanks [] := fun _ h => nomatch h

/-- One or more digits. -/
structure IsDigits (ds : List Char) : Prop where
  ne_nil : ds ≠ []
  isDigit : ∀ d ∈ ds, d.isDigit = true

/-- The whole part of a number, which starts with a zero only if it is zero. -/
inductive IsWhole : List Char → Prop where
  | zero : IsWhole ['0']
  | digits {d : Char} {ds : List Char} (hd : d ≠ '0') (h : IsDigits (d :: ds)) : IsWhole (d :: ds)

inductive IsFraction : List Char → Prop where
  | none : IsFraction []
  | digits {ds : List Char} (h : IsDigits ds) : IsFraction ('.' :: ds)

inductive IsExponent : List Char → Prop where
  | none : IsExponent []
  | digits {e : Char} {sign ds : List Char} (he : e = 'e' ∨ e = 'E')
      (hsign : sign = [] ∨ sign = ['+'] ∨ sign = ['-']) (h : IsDigits ds) :
      IsExponent (e :: (sign ++ ds))

/-- A number without its sign. -/
inductive IsMagnitude : List Char → Prop where
  | mk {whole fraction exponent : List Char} (hwhole : IsWhole whole)
      (hfraction : IsFraction fraction) (hexponent : IsExponent exponent) :
      IsMagnitude (whole ++ (fraction ++ exponent))

/-- A character that stands for itself in a string. -/
def IsPlain (c : Char) : Prop := c ≠ '"' ∧ c ≠ '\\' ∧ 0x20 ≤ c.toNat

instance (c : Char) : Decidable (IsPlain c) :=
  inferInstanceAs (Decidable (c ≠ '"' ∧ c ≠ '\\' ∧ 0x20 ≤ c.toNat))

/-- What has the form of a string, between its quotes. -/
inductive IsStringBody : List Char → Prop where
  | nil : IsStringBody []
  | plain {c : Char} {cs : List Char} (hc : IsPlain c) (h : IsStringBody cs) :
      IsStringBody (c :: cs)
  | escape {e : Char} {cs : List Char} (he : (simpleEscape? e).isSome = true)
      (h : IsStringBody cs) : IsStringBody ('\\' :: e :: cs)
  | codePoint {a b c d : Char} {cs : List Char} (hn : (hexValue4? a b c d).isSome = true)
      (h : IsStringBody cs) : IsStringBody ('\\' :: 'u' :: a :: b :: c :: d :: cs)

/-- The ways to write a text between the quotes of a string. -/
inductive Spells : List Char → List Char → Prop where
  | nil : Spells [] []
  | plain {c : Char} {s cs : List Char} (hc : IsPlain c) (h : Spells s cs) :
      Spells (c :: s) (c :: cs)
  | escape {e c : Char} {s cs : List Char} (he : simpleEscape? e = some c) (h : Spells s cs) :
      Spells (c :: s) ('\\' :: e :: cs)
  | codePoint {a b c d : Char} {n : Nat} {s cs : List Char} (hn : hexValue4? a b c d = some n)
      (hlow : isLowSurrogate n = false) (hhigh : isHighSurrogate n = false) (h : Spells s cs) :
      Spells (Char.ofNat n :: s) ('\\' :: 'u' :: a :: b :: c :: d :: cs)
  | surrogates {a b c d a' b' c' d' : Char} {high low : Nat} {s cs : List Char}
      (hh : hexValue4? a b c d = some high) (hhigh : isHighSurrogate high = true)
      (hl : hexValue4? a' b' c' d' = some low) (hlow : isLowSurrogate low = true)
      (h : Spells s cs) :
      Spells (Char.ofNat (ofSurrogates high low) :: s)
        ('\\' :: 'u' :: a :: b :: c :: d :: '\\' :: 'u' :: a' :: b' :: c' :: d' :: cs)

/-- A member of an object: a key and a value, with blanks around both. -/
structure MemberText where
  before : List Char
  key : List Char
  beforeColon : List Char
  beforeValue : List Char
  value : List Char
  behind : List Char

namespace MemberText

/-- The text of a member from behind its key on. -/
def fromKey (m : MemberText) : List Char :=
  m.beforeColon ++ ':' :: (m.beforeValue ++ (m.value ++ m.behind))

def text (m : MemberText) : List Char := m.before ++ '"' :: (m.key ++ '"' :: m.fromKey)

/-- Whether there is nothing but blanks around key and value. -/
structure IsSpaced (m : MemberText) : Prop where
  before : IsBlanks m.before
  beforeColon : IsBlanks m.beforeColon
  beforeValue : IsBlanks m.beforeValue
  behind : IsBlanks m.behind

end MemberText

/-- The phrases that JSON is made of: a value, the inside of a list, the inside of an object. -/
inductive Phrase where
  | value
  | elements
  | members

def literals : List (List Char) :=
  [['n', 'u', 'l', 'l'], ['t', 'r', 'u', 'e'], ['f', 'a', 'l', 's', 'e']]

inductive Derives : Phrase → List Char → Prop where
  | literal {cs : List Char} (h : cs ∈ literals) : Derives .value cs
  | positive {cs : List Char} (h : IsMagnitude cs) : Derives .value cs
  | negative {cs : List Char} (h : IsMagnitude cs) : Derives .value ('-' :: cs)
  | string {cs : List Char} (h : IsStringBody cs) : Derives .value ('"' :: (cs ++ ['"']))
  | emptyList {w : List Char} (hw : IsBlanks w) : Derives .value ('[' :: (w ++ [']']))
  | list {es : List Char} (h : Derives .elements es) : Derives .value ('[' :: (es ++ [']']))
  | emptyObject {w : List Char} (hw : IsBlanks w) : Derives .value ('\x7b' :: (w ++ ['\x7d']))
  | object {ms : List Char} (h : Derives .members ms) : Derives .value ('\x7b' :: (ms ++ ['\x7d']))
  | element {w v w' : List Char} (hw : IsBlanks w) (h : Derives .value v) (hw' : IsBlanks w') :
      Derives .elements (w ++ (v ++ w'))
  | elements {w v w' es : List Char} (hw : IsBlanks w) (h : Derives .value v) (hw' : IsBlanks w')
      (hs : Derives .elements es) : Derives .elements (w ++ (v ++ (w' ++ ',' :: es)))
  | member {m : MemberText} (hm : m.IsSpaced) (hk : IsStringBody m.key)
      (h : Derives .value m.value) : Derives .members m.text
  | members {m : MemberText} {ms : List Char} (hm : m.IsSpaced) (hk : IsStringBody m.key)
      (h : Derives .value m.value) (hs : Derives .members ms) :
      Derives .members (m.text ++ ',' :: ms)

end ResilientProxy.Json
