import ResilientProxy.Text.Printable

/-!
# Quoted text

How a message shows a piece of text so that its ends and its special characters can be seen: in
double quotes, with a quote, a backslash and the common control characters behind a backslash, and
any other character that does not print as its hexadecimal code point in braces.
-/

namespace ResilientProxy

def hexDigits (n : Nat) : List Char := Nat.toDigits 16 n

/-- How one character is shown between the quotes. -/
def quotedChar (c : Char) : List Char :=
  if c = '"' ∨ c = '\\' then ['\\', c]
  else if c = '\n' then ['\\', 'n']
  else if c = '\r' then ['\\', 'r']
  else if c = '\t' then ['\\', 't']
  else if c.toNat = 0 then ['\\', '0']
  else if isPrintable c then [c]
  else ['\\', 'u', '\x7b'] ++ hexDigits c.toNat ++ ['\x7d']

/-- `s` as a message shows it. -/
def quoted (s : String) : String :=
  "\"" ++ String.ofList (s.toList.flatMap quotedChar) ++ "\""

end ResilientProxy
