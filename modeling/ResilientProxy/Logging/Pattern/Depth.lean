/-!
# How deep patterns are nested

A group, a repetition, a bracketed class and an operator between sets each add a level to what is in
them, and so does a row of several elements and a choice between several rows. A row of one element
and a choice of one row are as deep as what they consist of.
-/

namespace ResilientProxy.Logging.Pattern

/-- The most levels that a pattern may have. -/
def depthLimit : Nat := 250

/-- The greatest of some depths. -/
def deepest : List Nat → Nat
  | [] => 0
  | d :: ds => if deepest ds ≤ d then d else deepest ds

/-- The depth of elements in a row, or of rows to choose from. -/
def joined : List Nat → Nat
  | [] => 0
  | [d] => d
  | ds => deepest ds + 1

end ResilientProxy.Logging.Pattern
