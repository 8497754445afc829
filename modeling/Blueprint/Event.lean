import Blueprint.Source.Block
import Blueprint.Source.Phrase

/-
  Events and the names of the fields that they record.

  Main definitions:
    * `Event`
    * `Event.fieldsOfText`
    * `Event.ofBlock`
-/

------------------------------------------------------------
-- Events
------------------------------------------------------------

namespace Blueprint

/- A declared event. -/
structure Event where
  name : String
  fields : List String
  location : Location
deriving DecidableEq, Repr

end Blueprint

------------------------------------------------------------
-- Reading Events
------------------------------------------------------------

namespace Blueprint

open Text

namespace Event

/-
  The field names on a line: `fields: [...]` with any
  number, or one bare identifier.
-/
def fieldsOfText
    (text : List Char) : Except Cause (List String) :=
  match property? text with
  | some (key, value) =>
      match String.ofList key with
      | "fields" => readList value
      | other => .error (.unknownProperty .event other)
  | none =>
      if isIdentifier text then
        .ok [String.ofList text]
      else
        .error (.notAnEventField (String.ofList text))

/- The field names on a line of an event. -/
def fieldsOfLine
    (file : String)
    (line : Line) : Except Fault (List String) :=
  line.blame file (fieldsOfText line.text)

/- The event with the named head and all fields of its body. -/
def ofBlock
    (file : String)
    (rest : List Char)
    (block : Block) : Except Fault Event := do
  let name ← block.head.blame file (readName .event rest)
  checkEven file .event block.body
  let fields ← block.body.mapM (fieldsOfLine file)
  return {
    name := name
    fields := fields.flatten
    location := block.head.location file }

end Event

end Blueprint
