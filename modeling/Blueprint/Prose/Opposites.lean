import Blueprint.Text.Blank
import Blueprint.Text.LetterCase
import Blueprint.Text.Words

/-
  Opposite words: values that exclude each other, actions
  that contradict each other, and negations.

  Main definitions:
    * `oppositePair?`
    * `antonyms`, `contradictions`
    * `stripNegation?`, `negate`, `isNegationOf`
    * `actionVerb?`
-/

------------------------------------------------------------
-- Pairs of Opposites
------------------------------------------------------------

namespace Blueprint

/- Values that exclude each other. -/
def antonyms : List (String × String) :=
  [("true", "false"),
   ("enabled", "disabled"),
   ("active", "inactive"),
   ("visible", "hidden"),
   ("allowed", "denied"),
   ("public", "private")]

/- Verbs of actions that contradict each other. -/
def contradictions : List (String × String) :=
  [("create", "delete"),
   ("enable", "disable"),
   ("show", "hide"),
   ("allow", "deny"),
   ("approve", "reject"),
   ("activate", "deactivate"),
   ("publish", "unpublish")]

/- The pair of a table that two words form in either order. -/
def oppositePair?
    (table : List (String × String))
    (a b : String) : Option (String × String) :=
  table.find? fun (x, y) =>
    (a == x && b == y) || (a == y && b == x)

/- The order of the two words does not matter. -/
theorem oppositePair?_comm
    (table : List (String × String))
    (a b : String) :
    oppositePair? table a b = oppositePair? table b a := by
  unfold oppositePair?
  congr 1
  funext ⟨x, y⟩
  simp only
  rw [Bool.or_comm, Bool.and_comm (b == x),
    Bool.and_comm (b == y)]

end Blueprint

------------------------------------------------------------
-- Negations
------------------------------------------------------------

namespace Blueprint

open Text

/- The trimmed text after `not ` or an exclamation mark. -/
def stripNegation?
    (text : List Char) : Option (List Char) :=
  let trimmed := trim text
  (stripStart "not ".toList trimmed
    <|> stripStart ['!'] trimmed).map trim

/- The negation of a value: negating twice does nothing. -/
def negate (value : List Char) : List Char :=
  match stripNegation? value with
  | some inner => inner
  | none => "not ".toList ++ value

/- One of two values is the negation of the other. -/
def isNegationOf (a b : String) : Bool :=
  stripNegation? a.toList == some (trim b.toList) ||
    stripNegation? b.toList == some (trim a.toList)

/- The order of the two values does not matter. -/
theorem isNegationOf_comm (a b : String) :
    isNegationOf a b = isNegationOf b a := by
  unfold isNegationOf
  rw [Bool.or_comm]

end Blueprint

------------------------------------------------------------
-- Verbs
------------------------------------------------------------

namespace Blueprint

open Text

/- The first word of an action, in lowercase. -/
def actionVerb? (action : String) : Option String :=
  (words action.toList).head?.map fun word =>
    String.ofList (lowercase word)

end Blueprint
