import Blueprint.Source.Fault
import Blueprint.Source.Line
import Blueprint.Text.Alphanumeric
import Blueprint.Text.Quoted
import Blueprint.Text.TopLevel

/-
  The phrases that lines are made of: a keyword with the
  text after it, a declared name, a property with its value,
  and a list in brackets.

  Main definitions:
    * `Line.location`, `Line.blame`
    * `splitKeyword`
    * `readName`
    * `property?`, `nonempty?`
    * `listItems`, `readList`
    * `checkEven`
-/

------------------------------------------------------------
-- Blame
------------------------------------------------------------

namespace Blueprint

open Text

namespace Line

/- The place of a line in the document `file`. -/
def location
    (line : Line)
    (file : String) : Location :=
  ⟨file, line.number⟩

/- Blame a line of `file` for a cause. -/
def blame
    {α : Type}
    (line : Line)
    (file : String) : Except Cause α → Except Fault α
| .ok a => .ok a
| .error cause => .error ⟨line.location file, cause⟩

end Line

end Blueprint

------------------------------------------------------------
-- Heads
------------------------------------------------------------

namespace Blueprint

open Text

/- The first word of a line and the trimmed rest. -/
def splitKeyword
    (text : List Char) : List Char × List Char :=
  match cutAt isBlank text with
  | some (word, rest) => (word, trim rest)
  | none => (text, [])

/-
  The name that a declaration gives itself: an identifier or
  any text in quotes.
-/
def readName
    (keyword : Keyword)
    (text : List Char) : Except Cause String :=
  if text.isEmpty then
    .error (.missingName keyword)
  else
    match unquote? text with
    | some inner => .ok (String.ofList inner)
    | none =>
        if isIdentifier text then
          .ok (String.ofList text)
        else
          .error (.invalidName keyword (String.ofList text))

/- The lines of a body all have the indent of the first. -/
def checkEven
    (file : String)
    (keyword : Keyword) : List Line → Except Fault Unit
| [] => .ok ()
| first :: rest =>
    match rest.find? (·.indent != first.indent) with
    | none => .ok ()
    | some line =>
        line.blame file
          (.error (.unevenBody keyword line.content))

end Blueprint

------------------------------------------------------------
-- Properties and Lists
------------------------------------------------------------

namespace Blueprint

open Text

/- The key and the trimmed value of `key: value`. -/
def property?
    (text : List Char) : Option (List Char × List Char) :=
  match cutAt (· == ':') text with
  | none => none
  | some (before, after) =>
      if isIdentifier (trim before) then
        some (trim before, trim after)
      else
        none

/-
  The items between top-level commas, without their quotes
  and without the empty ones.
-/
def listItems (text : List Char) : List String :=
  (((topLevelItems text).map unquoted).filter
    fun item => !item.isEmpty).map String.ofList

/- A text, unless it is empty. -/
def nonempty? (text : List Char) : Option String :=
  if text.isEmpty then none else some (String.ofList text)

/- The text between an opening and a closing mark. -/
def enclosed?
    (opening closing text : List Char) :
    Option (List Char) :=
  (stripStart opening text).bind (stripEnd closing)

/- The items of a list in square brackets. -/
def readList
    (text : List Char) : Except Cause (List String) :=
  match enclosed? ['['] [']'] text with
  | some inner => .ok (listItems inner)
  | none => .error (.notAList (String.ofList text))

end Blueprint
