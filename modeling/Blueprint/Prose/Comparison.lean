import Blueprint.Prose.Opposites

/-
  Comparisons in free text: a subject, and the value that it
  is said to have or not to have.

  Main definitions:
    * `Operator`, `Operator.mark`, `Operator.negates`
    * `Comparison`
    * `Comparison.ofText?`
-/

------------------------------------------------------------
-- Operators
------------------------------------------------------------

namespace Blueprint

/- The operators that a comparison is recognized by. -/
inductive Operator where
| isNot
| notEqual
| doubleEqual
| is
| equal
deriving DecidableEq, Repr

namespace Operator

/-
  The operators in the order in which they are looked for,
  so that a negated operator is never taken for a plain one.
-/
def all : List Operator :=
  [.isNot, .notEqual, .doubleEqual, .is, .equal]

/- The text of an operator, with the spaces around it. -/
def mark : Operator → List Char
| .isNot => " is not ".toList
| .notEqual => " != ".toList
| .doubleEqual => " == ".toList
| .is => " is ".toList
| .equal => " = ".toList

/- The operator denies its value. -/
def negates : Operator → Bool
| .isNot => true
| .notEqual => true
| .doubleEqual => false
| .is => false
| .equal => false

end Operator

end Blueprint

------------------------------------------------------------
-- Comparisons
------------------------------------------------------------

namespace Blueprint

open Text

/-
  A subject and its value. A denied value is written with
  `not ` in front.
-/
structure Comparison where
  subject : String
  value : String
deriving DecidableEq, Repr

namespace Comparison

/- A value without blanks and quotes around it, in lowercase. -/
def normalizeValue (text : List Char) : List Char :=
  lowercase (trim (trimMatches '"' (trim text)))

/- The first operator of the list that occurs in a text. -/
def firstOperator?
    (text : List Char) :
    Option (Operator × List Char × List Char) :=
  Operator.all.findSome? fun op =>
    (cutAround op.mark text).map fun parts => (op, parts)

/- The comparison of two sides of an operator. -/
def ofSides?
    (op : Operator)
    (left right : List Char) : Option Comparison :=
  let subject := trim left
  let value := normalizeValue right
  if subject.isEmpty || value.isEmpty then
    none
  else
    let shown := if op.negates then negate value else value
    some ⟨String.ofList subject, String.ofList shown⟩

/-
  A trimmed text without an operator: a single word stands
  for being true, and its negation for being false.
-/
def ofBareText? (text : List Char) : Option Comparison :=
  let (subject, value) :=
    match stripNegation? text with
    | some rest => (rest, "false")
    | none => (text, "true")
  if subject.isEmpty || subject.any isBlank then
    none
  else
    some ⟨String.ofList subject, value⟩

/- The comparison that a condition makes, if it makes one. -/
def ofText? (condition : String) : Option Comparison :=
  let text := trim condition.toList
  match firstOperator? text with
  | some (op, left, right) => ofSides? op left right
  | none => ofBareText? text

end Comparison

end Blueprint
