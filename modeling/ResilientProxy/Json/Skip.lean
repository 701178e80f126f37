import ResilientProxy.Json.Number

/-!
# Skipping values

A value that nobody asked for is checked for its form and passed over, to any depth. Neither the
range of its numbers nor the pairing of its surrogates is looked at. Each call passes at least one
character to the calls inside it, or hands on to one that does, so twice the length of the text
bounds their depth.
-/

namespace ResilientProxy.Json

/-- The text behind a colon. -/
def skipColon (cs : List Char) : Except Fault (List Char) :=
  match skipBlanks cs with
  | [] => .error (.atEnd .object)
  | c :: rest => if c = ':' then .ok rest else .error (.here .expectedColon (c :: rest))

mutual

def skipValueWithin : Nat → List Char → Except Fault (List Char)
  | 0, cs => .error (.here .expectedValue cs)
  | depth + 1, cs =>
    match skipBlanks cs with
    | [] => .error (.atEnd .value)
    | c :: rest =>
      if c = 'n' then skipLiteral ['u', 'l', 'l'] rest
      else if c = 't' then skipLiteral ['r', 'u', 'e'] rest
      else if c = 'f' then skipLiteral ['a', 'l', 's', 'e'] rest
      else if c = '"' then skipString rest
      else if c = '-' then skipNumber rest
      else if c.isDigit then skipNumber (c :: rest)
      else if c = '[' then
        match skipBlanks rest with
        | [] => .error (.atEnd .list)
        | d :: tail => if d = ']' then .ok tail else skipElementsWithin depth (d :: tail)
      else if c = '\x7b' then
        match skipBlanks rest with
        | [] => .error (.atEnd .object)
        | d :: tail => if d = '\x7d' then .ok tail else skipMembersWithin depth (d :: tail)
      else .error (.here .expectedValue (c :: rest))

/-- From an element of a list to behind the list. -/
def skipElementsWithin : Nat → List Char → Except Fault (List Char)
  | 0, cs => .error (.here .expectedValue cs)
  | depth + 1, cs =>
    match skipValueWithin depth cs with
    | .error f => .error f
    | .ok cs =>
      match skipBlanks cs with
      | [] => .error (.atEnd .list)
      | c :: rest =>
        if c = ',' then skipElementsWithin depth rest
        else if c = ']' then .ok rest
        else .error (.here .expectedCommaOrBracket (c :: rest))

/-- From a member of an object to behind the object. -/
def skipMembersWithin : Nat → List Char → Except Fault (List Char)
  | 0, cs => .error (.here .expectedValue cs)
  | depth + 1, cs =>
    match skipBlanks cs with
    | [] => .error (.atEnd .object)
    | c :: rest =>
      if c = '"' then
        match skipString rest with
        | .error f => .error f
        | .ok cs =>
          match skipColon cs with
          | .error f => .error f
          | .ok cs =>
            match skipValueWithin depth cs with
            | .error f => .error f
            | .ok cs =>
              match skipBlanks cs with
              | [] => .error (.atEnd .object)
              | c :: rest =>
                if c = ',' then skipMembersWithin depth rest
                else if c = '\x7d' then .ok rest
                else .error (.here .expectedCommaOrBrace (c :: rest))
      else .error (.here .keyNotString (c :: rest))

end

/-- The text behind a value. -/
def skipValue (cs : List Char) : Except Fault (List Char) :=
  skipValueWithin (2 * cs.length + 2) cs

end ResilientProxy.Json
