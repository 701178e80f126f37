import ResilientProxy.Logging.Directive

/-!
# Log filters

A filter is a list of directives. A directive without a target sets the level of every target that
no other directive speaks of; one with a target sets the level of the targets that start with it.
The longest such target decides, then the directive that asks for a field, and of equal directives
the last.
-/

namespace ResilientProxy.Logging

abbrev Filter := List Directive

namespace Filter

/-- The parts of a text between commas. -/
def parts : List Char → List (List Char)
  | [] => [[]]
  | c :: cs =>
    if c = ',' then [] :: parts cs
    else
      match parts cs with
      | [] => [[c]]
      | p :: rest => (c :: p) :: rest

def directives : List (List Char) → Except FilterFault Filter
  | [] => .ok []
  | p :: rest =>
    match Directive.ofText? p with
    | .error e => .error e
    | .ok d =>
      match directives rest with
      | .error e => .error e
      | .ok ds => .ok (d :: ds)

/-- Reads directives between commas. Empty ones are passed over, and a text without any lets nothing
through. -/
def ofText? (text : String) : Except FilterFault Filter :=
  directives ((parts text.toList).filter (!·.isEmpty))

/-- The directive that decides, given the one that did so far. -/
def prefer (best : Option Directive) (d : Directive) : Option Directive :=
  match best with
  | none => some d
  | some b => if b.outranks d then some b else some d

/-- The most verbose level that gets through for a target, if events have the given fields. -/
def levelFor (f : Filter) (target : String) (fields : Option (List String)) : Level :=
  match (f.filter (·.covers target fields)).foldl prefer none with
  | some d => d.level
  | none => .off

/-- The most verbose level that may get through for a target, whatever the fields of events are. -/
def levelOf (f : Filter) (target : String) : Level := f.levelFor target none

end Filter

end ResilientProxy.Logging
