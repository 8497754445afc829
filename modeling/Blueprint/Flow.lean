import Blueprint.Source.Block
import Blueprint.Source.Phrase
import Blueprint.Text.Digit

/-
  Flows: numbered steps, some of which an AI carries out.

  Main definitions:
    * `FlowStep`, `Flow`
    * `aiAction?`
    * `FlowStep.ofLine`
    * `Flow.ofBlock`
-/

------------------------------------------------------------
-- Flows
------------------------------------------------------------

namespace Blueprint

/-
  A step of a flow. Its order is the number it is written
  with, not its position. An AI step has an action.
-/
structure FlowStep where
  order : UInt32
  description : String
  ai : Bool
  action : Option String
  location : Location
deriving DecidableEq, Repr

/- A declared flow. -/
structure Flow where
  name : String
  steps : List FlowStep
  location : Location
deriving DecidableEq, Repr

end Blueprint

------------------------------------------------------------
-- Reading Flows
------------------------------------------------------------

namespace Blueprint

open Text

/-
  The trimmed text after `ai:` or `ai ` in any ASCII case,
  if a description starts so.
-/
def aiAction? : List Char → Option (List Char)
| a :: i :: mark :: rest =>
    if a.toLower = 'a' && i.toLower = 'i' &&
        (mark = ':' || mark = ' ') then
      some (trim rest)
    else
      none
| _ => none

namespace FlowStep

/- The number and the description of `N. description`. -/
def parts?
    (text : List Char) :
    Option (List Char × List Char) := do
  let digits := text.takeWhile isDecimalDigit
  let afterDot ← stripStart ['.']
    (text.dropWhile isDecimalDigit)
  let description ← skipBlanks? afterDot
  if digits.isEmpty || description.isEmpty then
    none
  else
    some (digits, trim description)

/- The step at `location` with this order and description. -/
def ofParts
    (location : Location)
    (order : UInt32)
    (description : List Char) : FlowStep :=
  let action := aiAction? description
  { order := order
    description := String.ofList description
    ai := action.isSome
    action := action.map String.ofList
    location := location }

/- The step that a text writes. -/
def ofText
    (location : Location)
    (text : List Char) : Except Cause FlowStep :=
  match parts? text with
  | none => .error (.notAFlowStep (String.ofList text))
  | some (digits, description) =>
      match readUInt32? digits with
      | none =>
          .error (.stepOutOfRange (String.ofList digits))
      | some order => .ok (ofParts location order description)

def ofLine
    (file : String)
    (line : Line) : Except Fault FlowStep :=
  line.blame file (ofText (line.location file) line.text)

end FlowStep

namespace Flow

/- The flow with the named head and the steps of its body. -/
def ofBlock
    (file : String)
    (rest : List Char)
    (block : Block) : Except Fault Flow := do
  let name ← block.head.blame file (readName .flow rest)
  checkEven file .flow block.body
  let steps ← block.body.mapM (FlowStep.ofLine file)
  return {
    name := name
    steps := steps
    location := block.head.location file }

end Flow

end Blueprint
