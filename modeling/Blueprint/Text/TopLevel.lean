import Blueprint.Text.Blank

/-
  Commas and arrows at the top level of a text: outside
  quotes, and after as many closing as opening brackets.

  Main definitions:
    * `Nesting`, `Nesting.next`
    * `cutTopLevel`
    * `topLevelPieces`
    * `topLevelItems`
-/

------------------------------------------------------------
-- Nesting
------------------------------------------------------------

namespace Blueprint

namespace Text

/-
  Where a left-to-right scan stands: the number of opening
  less closing brackets so far, whether it is inside quotes,
  and whether the next quoted character is escaped. The
  number has no bound here: one of 32 bits agrees with it on
  texts of fewer than 2^31 characters.
-/
structure Nesting where
  depth : Int
  quoted : Bool
  escaped : Bool
deriving DecidableEq, Repr

namespace Nesting

/- The nesting at the start of a text. -/
def outermost : Nesting where
  depth := 0
  quoted := false
  escaped := false

/- Neither inside quotes nor inside brackets. -/
def isTopLevel (n : Nesting) : Bool :=
  !n.quoted && n.depth == 0

/- The nesting after a character inside quotes. -/
def nextQuoted
    (n : Nesting)
    (c : Char) : Nesting :=
  if n.escaped then
    { n with escaped := false }
  else if c = '\\' then
    { n with escaped := true }
  else if c = '"' then
    { n with quoted := false }
  else
    n

/- The nesting after a character outside quotes. -/
def nextPlain
    (n : Nesting)
    (c : Char) : Nesting :=
  if c = '"' then
    { n with quoted := true }
  else if c = '(' || c = '[' then
    { n with depth := n.depth + 1 }
  else if c = ')' || c = ']' then
    { n with depth := n.depth - 1 }
  else
    n

/- The nesting after one more character. -/
def next
    (n : Nesting)
    (c : Char) : Nesting :=
  if n.quoted then
    n.nextQuoted c
  else
    n.nextPlain c

end Nesting

end Text

end Blueprint

------------------------------------------------------------
-- Cutting at the Top Level
------------------------------------------------------------

namespace Blueprint

namespace Text

/-
  The parts before and after the first top-level occurrence
  of `target`, for a scan that stands at `n`.
-/
def cutTopLevelFrom
    (target : Char)
    (n : Nesting) :
    List Char → Option (List Char × List Char)
| [] => none
| c :: rest =>
    if n.isTopLevel && c == target then
      some ([], rest)
    else
      (cutTopLevelFrom target (n.next c) rest).map
        fun (before, after) => (c :: before, after)

/-
  The parts before and after the first top-level occurrence
  of `target`.
-/
def cutTopLevel
    (target : Char)
    (text : List Char) :
    Option (List Char × List Char) :=
  cutTopLevelFrom target .outermost text

/-
  The pieces between top-level commas, for a scan that
  stands at `n`. After a comma the scan stands where it
  stood at the start.
-/
def topLevelPiecesFrom
    (n : Nesting) :
    List Char → List (List Char)
| [] => [[]]
| c :: rest =>
    if n.isTopLevel && c == ',' then
      [] :: topLevelPiecesFrom n rest
    else
      match topLevelPiecesFrom (n.next c) rest with
      | [] => [[c]]
      | piece :: more => (c :: piece) :: more

/- The pieces between top-level commas. -/
def topLevelPieces (text : List Char) : List (List Char) :=
  topLevelPiecesFrom .outermost text

/-
  The trimmed pieces between top-level commas; a blank text
  has none.
-/
def topLevelItems (text : List Char) : List (List Char) :=
  if isBlankText text then
    []
  else
    (topLevelPieces text).map trim

end Text

end Blueprint
