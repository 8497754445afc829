import Blueprint.Field.Modifiers
import Blueprint.Field.Type
import Blueprint.Source.Block

/-
  Entities and their fields, one field a line.

  Main definitions:
    * `Field`, `Entity`
    * `Entity.field?`
    * `Field.ofLine`
    * `Entity.ofBlock`
-/

------------------------------------------------------------
-- Entities
------------------------------------------------------------

namespace Blueprint

/- A field of an entity. -/
structure Field where
  name : String
  type : FieldType
  modifiers : Modifiers
  location : Location
deriving DecidableEq, Repr

/- A declared entity. -/
structure Entity where
  name : String
  fields : List Field
  location : Location
deriving DecidableEq, Repr

namespace Entity

/- The first field of a name. -/
def field?
    (e : Entity)
    (name : String) : Option Field :=
  e.fields.find? fun f => f.name == name

end Entity

end Blueprint

------------------------------------------------------------
-- Reading Entities
------------------------------------------------------------

namespace Blueprint

open Text

namespace Field

/- The type and the modifiers after the name of a field. -/
def ofSpecification
    (location : Location)
    (name text : List Char) : Except Cause Field := do
  let field := String.ofList name
  let (typeText, modifierText) :=
    match cutTopLevel ',' text with
    | some (before, after) => (trim before, trim after)
    | none => (text, [])
  let modifiers ← Modifiers.ofText field modifierText
  return {
    name := field
    type := FieldType.ofText typeText
    modifiers := modifiers
    location := location }

/- The field written as `name: type, modifier, ...`. -/
def ofText
    (location : Location)
    (text : List Char) : Except Cause Field :=
  match cutAt (· == ':') text with
  | none => .error (.notAField (String.ofList text))
  | some (before, after) =>
      let name := trim before
      let specification := trim after
      if !isIdentifier name then
        .error (.invalidFieldName (String.ofList name))
      else if specification.isEmpty then
        .error (.missingType (String.ofList name))
      else
        ofSpecification location name specification

def ofLine
    (file : String)
    (line : Line) : Except Fault Field :=
  line.blame file (ofText (line.location file) line.text)

end Field

namespace Entity

/- The entity with the named head and the fields of its body. -/
def ofBlock
    (file : String)
    (rest : List Char)
    (block : Block) : Except Fault Entity := do
  let name ← block.head.blame file (readName .entity rest)
  checkEven file .entity block.body
  let fields ← block.body.mapM (Field.ofLine file)
  return {
    name := name
    fields := fields
    location := block.head.location file }

end Entity

end Blueprint
