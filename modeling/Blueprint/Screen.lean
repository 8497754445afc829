import Blueprint.Screen.Kind
import Blueprint.Source.Block
import Blueprint.Source.Phrase

/-
  Screens: their properties, the steps of wizards and the
  widgets of dashboards.

  The body of a screen is a list of property lines. Only
  `steps:` and `widgets:` own the deeper lines below them. A
  later property replaces an earlier one of the same key.

  Main definitions:
    * `WizardStep`, `Widget`, `Screen`
    * `ScreenProperty`, `ScreenProperty.ofBlock`
    * `ScreenParts.set`
    * `Screen.ofBlock`
-/

------------------------------------------------------------
-- Screens
------------------------------------------------------------

namespace Blueprint

/- A step of a wizard and the fields that it asks for. -/
structure WizardStep where
  name : String
  fields : List String
  location : Location
deriving DecidableEq, Repr

/- A widget of a dashboard. -/
structure Widget where
  label : String
  kind : WidgetKind
  location : Location
deriving DecidableEq, Repr

/- A declared screen. -/
structure Screen where
  name : String
  kind : ScreenKind
  entity : Option String
  fields : List String
  filters : List String
  actions : List String
  primaryAction : Option String
  steps : List WizardStep
  widgets : List Widget
  location : Location
deriving DecidableEq, Repr

end Blueprint

------------------------------------------------------------
-- Nested Lines
------------------------------------------------------------

namespace Blueprint

open Text

namespace WizardStep

/- The name and the list text of `"name" → [fields]`. -/
def parts?
    (text : List Char) :
    Option (List Char × List Char) := do
  let (name, afterName) ← quoted? text
  let afterArrow ← stripStart ['→'] (trimStart afterName)
  let list := trimStart afterArrow
  let _ ← enclosed? ['['] [']'] list
  return (name, list)

/- The wizard step on a line. -/
def ofLine
    (file : String)
    (line : Line) : Except Fault WizardStep :=
  line.blame file <|
    match parts? line.text with
    | none => .error (.notAWizardStep line.content)
    | some (name, list) => do
        let fields ← readList list
        return {
          name := String.ofList name
          fields := fields
          location := line.location file }

end WizardStep

namespace Widget

/- The label and the kind of `"label" (kind)`. -/
def parts?
    (text : List Char) :
    Option (List Char × List Char) := do
  let (label, afterLabel) ← quoted? text
  let inner ← enclosed? ['('] [')'] (trimStart afterLabel)
  if isIdentifier (trim inner) then
    some (label, trim inner)
  else
    none

/- The widget on a line. -/
def ofLine
    (file : String)
    (line : Line) : Except Fault Widget :=
  line.blame file <|
    match parts? line.text with
    | none => .error (.notAWidget line.content)
    | some (label, kind) =>
        .ok {
          label := String.ofList label
          kind := WidgetKind.ofWord (String.ofList kind)
          location := line.location file }

end Widget

end Blueprint

------------------------------------------------------------
-- Properties
------------------------------------------------------------

namespace Blueprint

open Text

/- A property of a screen. -/
inductive ScreenProperty where
| kind (kind : ScreenKind)
| entity (name : Option String)
| action (action : Option String)
| fields (names : List String)
| filters (names : List String)
| actions (names : List String)
| steps (steps : List WizardStep)
| widgets (widgets : List Widget)
deriving DecidableEq, Repr

namespace ScreenProperty

/- The keys of the properties that own nested lines. -/
def nestingKeys : List String :=
  ["steps", "widgets"]

/- A key with nested lines has no value on its own line. -/
def checkNoValue
    (key : String)
    (value : List Char) : Except Cause Unit :=
  if value.isEmpty then
    .ok ()
  else
    .error (.unexpectedValue key)

/- The property of a key and a value with nested lines. -/
def ofParts
    (file key : String)
    (value : List Char)
    (block : Block) : Except Fault ScreenProperty :=
  let line := block.head
  match key with
  | "kind" =>
      .ok (.kind (ScreenKind.ofWord (String.ofList value)))
  | "entity" => .ok (.entity (nonempty? value))
  | "action" => .ok (.action (nonempty? value))
  | "fields" =>
      line.blame file ((readList value).map .fields)
  | "filters" =>
      line.blame file ((readList value).map .filters)
  | "actions" =>
      line.blame file ((readList value).map .actions)
  | "steps" => do
      line.blame file (checkNoValue key value)
      let steps ← block.body.mapM (WizardStep.ofLine file)
      return .steps steps
  | "widgets" => do
      line.blame file (checkNoValue key value)
      let widgets ← block.body.mapM (Widget.ofLine file)
      return .widgets widgets
  | other =>
      line.blame file
        (.error (.unknownProperty .screen other))

/-
  The property on a line of the screen `screen` whose
  property lines have indent `level`.
-/
def ofBlock
    (file screen : String)
    (level : Nat)
    (block : Block) : Except Fault ScreenProperty :=
  let line := block.head
  if line.indent != level then
    line.blame file
      (.error (.unevenScreen screen line.content))
  else
    match property? line.text with
    | none =>
        line.blame file
          (.error (.notAProperty line.content))
    | some (keyText, value) =>
        let key := String.ofList keyText
        match block.body with
        | [] => ofParts file key value block
        | nested :: _ =>
            if nestingKeys.contains key then
              ofParts file key value block
            else
              nested.blame file
                (.error (.unexpectedNested key))

end ScreenProperty

end Blueprint

------------------------------------------------------------
-- Reading Screens
------------------------------------------------------------

namespace Blueprint

open Text

/- The properties of a screen that have been read. -/
structure ScreenParts where
  kind : Option ScreenKind := none
  entity : Option String := none
  fields : List String := []
  filters : List String := []
  actions : List String := []
  primaryAction : Option String := none
  steps : List WizardStep := []
  widgets : List Widget := []
deriving DecidableEq, Repr

namespace ScreenParts

/- Add one property. -/
def set
    (parts : ScreenParts) : ScreenProperty → ScreenParts
| .kind kind => { parts with kind := some kind }
| .entity name => { parts with entity := name }
| .action action => { parts with primaryAction := action }
| .fields names => { parts with fields := names }
| .filters names => { parts with filters := names }
| .actions names => { parts with actions := names }
| .steps steps => { parts with steps := steps }
| .widgets widgets => { parts with widgets := widgets }

/- The screen of these parts, if its kind is known. -/
def toScreen?
    (parts : ScreenParts)
    (name : String)
    (location : Location) : Option Screen :=
  parts.kind.map fun kind => {
    name := name
    kind := kind
    entity := parts.entity
    fields := parts.fields
    filters := parts.filters
    actions := parts.actions
    primaryAction := parts.primaryAction
    steps := parts.steps
    widgets := parts.widgets
    location := location }

end ScreenParts

namespace Screen

/- The indent of the property lines of a body. -/
def bodyLevel : List Line → Nat
| [] => 0
| first :: _ => first.indent

/- The screen with the named head and the given body. -/
def ofBlock
    (file : String)
    (rest : List Char)
    (block : Block) : Except Fault Screen := do
  let head := block.head
  let name ← head.blame file (readName .screen rest)
  let level := bodyLevel block.body
  let properties ← (blocks level block.body).mapM
    (ScreenProperty.ofBlock file name level)
  let parts := properties.foldl ScreenParts.set {}
  match parts.toScreen? name (head.location file) with
  | some screen => return screen
  | none => head.blame file (.error (.missingScreenKind name))

end Screen

end Blueprint
