import Blueprint.Source.Block
import Blueprint.Source.Phrase

/-
  Integrations: outside services with an endpoint and a
  purpose.

  Main definitions:
    * `Integration`
    * `Integration.set`
    * `Integration.ofBlock`
-/

------------------------------------------------------------
-- Integrations
------------------------------------------------------------

namespace Blueprint

/- A declared integration. -/
structure Integration where
  name : String
  endpoint : Option String
  purpose : Option String
  location : Location
deriving DecidableEq, Repr

end Blueprint

------------------------------------------------------------
-- Reading Integrations
------------------------------------------------------------

namespace Blueprint

open Text

/- A property of an integration. -/
inductive IntegrationProperty where
| endpoint (text : String)
| purpose (text : String)
deriving DecidableEq, Repr

namespace IntegrationProperty

/- The property that a text writes. -/
def ofText
    (text : List Char) : Except Cause IntegrationProperty :=
  match property? text with
  | none => .error (.notAProperty (String.ofList text))
  | some (key, valueText) =>
      let value := String.ofList (unquoted valueText)
      match String.ofList key with
      | "endpoint" => .ok (.endpoint value)
      | "purpose" => .ok (.purpose value)
      | other =>
          .error (.unknownProperty .integration other)

def ofLine
    (file : String)
    (line : Line) : Except Fault IntegrationProperty :=
  line.blame file (ofText line.text)

end IntegrationProperty

namespace Integration

/- Add one property; a later one replaces an earlier one. -/
def set
    (i : Integration) :
    IntegrationProperty → Integration
| .endpoint text => { i with endpoint := some text }
| .purpose text => { i with purpose := some text }

/- The integration with the named head and the given body. -/
def ofBlock
    (file : String)
    (rest : List Char)
    (block : Block) : Except Fault Integration := do
  let head := block.head
  let name ← head.blame file (readName .integration rest)
  checkEven file .integration block.body
  let properties ← block.body.mapM
    (IntegrationProperty.ofLine file)
  return properties.foldl set
    ⟨name, none, none, head.location file⟩

end Integration

end Blueprint
