/-!
# Writing JSON

Compact JSON text: no blanks between the parts, and in strings a backslash only before what may not
stand there as it is.
-/

namespace ResilientProxy.Json

/-- How a character stands in a string. Control characters without a letter of their own are written
with four hexadecimal digits. -/
def writeChar (c : Char) : List Char :=
  if c = '"' ∨ c = '\\' then ['\\', c]
  else if c = '\x08' then ['\\', 'b']
  else if c = '\x0c' then ['\\', 'f']
  else if c = '\n' then ['\\', 'n']
  else if c = '\r' then ['\\', 'r']
  else if c = '\t' then ['\\', 't']
  else if c.toNat < 0x20 then
    ['\\', 'u', '0', '0', Nat.digitChar (c.toNat / 16), Nat.digitChar (c.toNat % 16)]
  else [c]

def writeText (s : String) : List Char := '"' :: s.toList.flatMap writeChar ++ ['"']

def writeNat (n : Nat) : List Char := Nat.toDigits 10 n

def writeBoolean (b : Bool) : List Char :=
  if b then ['t', 'r', 'u', 'e'] else ['f', 'a', 'l', 's', 'e']

def writeMember (m : String × List Char) : List Char := writeText m.1 ++ ':' :: m.2

/-- An object with the given keys and written values. -/
def writeObject (members : List (String × List Char)) : List Char :=
  '\x7b' :: (((members.map writeMember).intersperse [',']).flatten ++ ['\x7d'])

end ResilientProxy.Json
