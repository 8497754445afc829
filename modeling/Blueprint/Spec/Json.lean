import Blueprint.Json.Decode
import Blueprint.Spec

/-
  Specifications as JSON values.

  Every record is an object with its fields in a fixed order
  and `null` for what is absent. Every choice between cases
  is an object whose entry `kind` names the case.

  Main definitions:
    * `Spec.toJson`
    * `Spec.ofJson?`
-/

------------------------------------------------------------
-- Locations
------------------------------------------------------------

namespace Blueprint

namespace Location

def toJson (l : Location) : Json :=
  .object
    [("file", .string l.file),
     ("line", .ofNat l.line)]

def ofJson? (value : Json) : Option Location := do
  let entries ← value.record? ["file", "line"]
  let file ← Json.field? entries "file" Json.string?
  let line ← Json.field? entries "line" Json.nat32?
  return ⟨file, line⟩

end Location

namespace Json

/- An optional string. -/
def ofText? : Option String → Json :=
  ofOption .string

/- A list of strings. -/
def strings? : Json → Option (List String) :=
  list? string?

/- The case of a tagged value without further entries. -/
def ofTag (tag : String) : Json :=
  .object [("kind", .string tag)]

/- The case of a tagged value with one more entry. -/
def ofTagged
    (tag key : String)
    (value : Json) : Json :=
  .object [("kind", .string tag), (key, value)]

/- The text in the only field of a tagged value. -/
def soleText?
    (content : Json)
    (name : String) : Option String := do
  let entries ← content.record? [name]
  field? entries name string?

end Json

end Blueprint

------------------------------------------------------------
-- Entities
------------------------------------------------------------

namespace Blueprint

namespace Scalar

/- The name of a scalar type in JSON. -/
def tag : Scalar → String
| .dateTime => "date_time"
| s => s.word

/- The scalar type of a name in JSON. -/
def ofTag? (t : String) : Option Scalar :=
  all.find? fun s => s.tag == t

end Scalar

namespace FieldType

def toJson : FieldType → Json
| .scalar s => .ofTag s.tag
| .enum values => .ofTagged "enum" "values" (.ofStrings values)
| .relationship entity =>
    .ofTagged "relationship" "entity" (.string entity)
| .list entity => .ofTagged "list" "entity" (.string entity)
| .ai prompt => .ofTagged "ai" "prompt" (.string prompt)
| .computed expression =>
    .ofTagged "computed" "expression" (.string expression)
| .unrecognized raw =>
    .ofTagged "unrecognized" "raw" (.string raw)

/- The values of an enum. -/
def valuesOfJson? (content : Json) : Option FieldType := do
  let entries ← content.record? ["values"]
  let values ← Json.field? entries "values" Json.strings?
  return .enum values

/- The field type of a case and the value that follows. -/
def ofTagged?
    (tag : String)
    (content : Json) : Option FieldType :=
  match tag with
  | "enum" => valuesOfJson? content
  | "relationship" =>
      (content.soleText? "entity").map .relationship
  | "list" => (content.soleText? "entity").map .list
  | "ai" => (content.soleText? "prompt").map .ai
  | "computed" =>
      (content.soleText? "expression").map .computed
  | "unrecognized" =>
      (content.soleText? "raw").map .unrecognized
  | other => do
      let s ← Scalar.ofTag? other
      let _ ← content.record? []
      return .scalar s

def ofJson? (value : Json) : Option FieldType := do
  let (tag, content) ← value.tagged?
  ofTagged? tag content

end FieldType

namespace Modifiers

/- An optional bound as JSON. -/
def boundToJson : Option Int64 → Json :=
  Json.ofOption fun n => .integer n.toInt

def toJson (ms : Modifiers) : Json :=
  .object
    [("required", .bool ms.required),
     ("unique", .bool ms.unique),
     ("min", boundToJson ms.min),
     ("max", boundToJson ms.max),
     ("pattern", .ofText? ms.pattern),
     ("default_value", .ofText? ms.default)]

def ofJson? (value : Json) : Option Modifiers := do
  let entries ← value.record?
    ["required", "unique", "min", "max", "pattern",
     "default_value"]
  let required ← Json.field? entries "required" Json.bool?
  let unique ← Json.field? entries "unique" Json.bool?
  let min ← Json.optionalField? entries "min" Json.int64?
  let max ← Json.optionalField? entries "max" Json.int64?
  let pattern ←
    Json.optionalField? entries "pattern" Json.string?
  let default ←
    Json.optionalField? entries "default_value" Json.string?
  return ⟨required, unique, min, max, pattern, default⟩

end Modifiers

namespace Field

def toJson (f : Field) : Json :=
  .object
    [("name", .string f.name),
     ("field_type", f.type.toJson),
     ("modifiers", f.modifiers.toJson),
     ("location", f.location.toJson)]

def ofJson? (value : Json) : Option Field := do
  let entries ← value.record?
    ["name", "field_type", "modifiers", "location"]
  let name ← Json.field? entries "name" Json.string?
  let type ←
    Json.field? entries "field_type" FieldType.ofJson?
  let modifiers ←
    Json.field? entries "modifiers" Modifiers.ofJson?
  let location ←
    Json.field? entries "location" Location.ofJson?
  return ⟨name, type, modifiers, location⟩

end Field

namespace Entity

def toJson (e : Entity) : Json :=
  .object
    [("name", .string e.name),
     ("fields", .ofList Field.toJson e.fields),
     ("location", e.location.toJson)]

def ofJson? (value : Json) : Option Entity := do
  let entries ← value.record? ["name", "fields", "location"]
  let name ← Json.field? entries "name" Json.string?
  let fields ←
    Json.field? entries "fields" (Json.list? Field.ofJson?)
  let location ←
    Json.field? entries "location" Location.ofJson?
  return ⟨name, fields, location⟩

end Entity

end Blueprint

------------------------------------------------------------
-- Screens
------------------------------------------------------------

namespace Blueprint

namespace ScreenKind

def toJson : ScreenKind → Json
| .unrecognized raw =>
    .ofTagged "unrecognized" "raw" (.string raw)
| kind => .ofTag kind.word

/- The screen kind of a case and the value that follows. -/
def ofTagged?
    (tag : String)
    (content : Json) : Option ScreenKind :=
  if tag = "unrecognized" then
    (content.soleText? "raw").map .unrecognized
  else if words.contains tag then
    (content.record? []).map fun _ => ofWord tag
  else
    none

def ofJson? (value : Json) : Option ScreenKind := do
  let (tag, content) ← value.tagged?
  ofTagged? tag content

end ScreenKind

namespace WidgetKind

def toJson : WidgetKind → Json
| .unrecognized raw =>
    .ofTagged "unrecognized" "raw" (.string raw)
| kind => .ofTag kind.word

/- The widget kind of a case and the value that follows. -/
def ofTagged?
    (tag : String)
    (content : Json) : Option WidgetKind :=
  if tag = "unrecognized" then
    (content.soleText? "raw").map .unrecognized
  else if words.contains tag then
    (content.record? []).map fun _ => ofWord tag
  else
    none

def ofJson? (value : Json) : Option WidgetKind := do
  let (tag, content) ← value.tagged?
  ofTagged? tag content

end WidgetKind

namespace WizardStep

def toJson (s : WizardStep) : Json :=
  .object
    [("name", .string s.name),
     ("fields", .ofStrings s.fields),
     ("location", s.location.toJson)]

def ofJson? (value : Json) : Option WizardStep := do
  let entries ← value.record? ["name", "fields", "location"]
  let name ← Json.field? entries "name" Json.string?
  let fields ← Json.field? entries "fields" Json.strings?
  let location ←
    Json.field? entries "location" Location.ofJson?
  return ⟨name, fields, location⟩

end WizardStep

namespace Widget

def toJson (w : Widget) : Json :=
  .object
    [("label", .string w.label),
     ("kind", w.kind.toJson),
     ("location", w.location.toJson)]

def ofJson? (value : Json) : Option Widget := do
  let entries ← value.record? ["label", "kind", "location"]
  let label ← Json.field? entries "label" Json.string?
  let kind ← Json.field? entries "kind" WidgetKind.ofJson?
  let location ←
    Json.field? entries "location" Location.ofJson?
  return ⟨label, kind, location⟩

end Widget

namespace Screen

/- The names of the fields of a screen in JSON. -/
def jsonNames : List String :=
  ["name", "kind", "entity", "fields", "filters", "actions",
   "primary_action", "steps", "widgets", "location"]

def toJson (s : Screen) : Json :=
  .object
    [("name", .string s.name),
     ("kind", s.kind.toJson),
     ("entity", .ofText? s.entity),
     ("fields", .ofStrings s.fields),
     ("filters", .ofStrings s.filters),
     ("actions", .ofStrings s.actions),
     ("primary_action", .ofText? s.primaryAction),
     ("steps", .ofList WizardStep.toJson s.steps),
     ("widgets", .ofList Widget.toJson s.widgets),
     ("location", s.location.toJson)]

def ofJson? (value : Json) : Option Screen := do
  let entries ← value.record? jsonNames
  let name ← Json.field? entries "name" Json.string?
  let kind ← Json.field? entries "kind" ScreenKind.ofJson?
  let entity ←
    Json.optionalField? entries "entity" Json.string?
  let fields ← Json.field? entries "fields" Json.strings?
  let filters ← Json.field? entries "filters" Json.strings?
  let actions ← Json.field? entries "actions" Json.strings?
  let primaryAction ←
    Json.optionalField? entries "primary_action" Json.string?
  let steps ←
    Json.field? entries "steps"
      (Json.list? WizardStep.ofJson?)
  let widgets ←
    Json.field? entries "widgets" (Json.list? Widget.ofJson?)
  let location ←
    Json.field? entries "location" Location.ofJson?
  return ⟨name, kind, entity, fields, filters, actions,
    primaryAction, steps, widgets, location⟩

end Screen

end Blueprint

------------------------------------------------------------
-- Flows and Rules
------------------------------------------------------------

namespace Blueprint

namespace FlowStep

def toJson (s : FlowStep) : Json :=
  .object
    [("order", .ofNat s.order.toNat),
     ("description", .string s.description),
     ("ai", .bool s.ai),
     ("action", .ofText? s.action),
     ("location", s.location.toJson)]

def ofJson? (value : Json) : Option FlowStep := do
  let entries ← value.record?
    ["order", "description", "ai", "action", "location"]
  let order ← Json.field? entries "order" Json.uint32?
  let description ←
    Json.field? entries "description" Json.string?
  let ai ← Json.field? entries "ai" Json.bool?
  let action ←
    Json.optionalField? entries "action" Json.string?
  let location ←
    Json.field? entries "location" Location.ofJson?
  return ⟨order, description, ai, action, location⟩

end FlowStep

namespace Flow

def toJson (f : Flow) : Json :=
  .object
    [("name", .string f.name),
     ("steps", .ofList FlowStep.toJson f.steps),
     ("location", f.location.toJson)]

def ofJson? (value : Json) : Option Flow := do
  let entries ← value.record? ["name", "steps", "location"]
  let name ← Json.field? entries "name" Json.string?
  let steps ←
    Json.field? entries "steps" (Json.list? FlowStep.ofJson?)
  let location ←
    Json.field? entries "location" Location.ofJson?
  return ⟨name, steps, location⟩

end Flow

namespace AiCall

/- The entries of an AI call. -/
def entries (call : AiCall) : List (String × Json) :=
  [("input", .string call.input),
   ("prompt", .string call.prompt),
   ("expected_output", .string call.expectedOutput)]

def ofJson? (value : Json) : Option AiCall := do
  let entries ← value.record?
    ["input", "prompt", "expected_output"]
  let input ← Json.field? entries "input" Json.string?
  let prompt ← Json.field? entries "prompt" Json.string?
  let expectedOutput ←
    Json.field? entries "expected_output" Json.string?
  return ⟨input, prompt, expectedOutput⟩

end AiCall

namespace Condition

def toJson : Condition → Json
| .plain text => .ofTagged "plain" "text" (.string text)
| .ai call => .object (("kind", .string "ai") :: call.entries)

/- The condition of a case and the value that follows. -/
def ofTagged?
    (tag : String)
    (content : Json) : Option Condition :=
  match tag with
  | "plain" => (content.soleText? "text").map .plain
  | "ai" => (AiCall.ofJson? content).map .ai
  | _ => none

def ofJson? (value : Json) : Option Condition := do
  let (tag, content) ← value.tagged?
  ofTagged? tag content

end Condition

namespace Rule

def toJson (r : Rule) : Json :=
  .object
    [("description", .string r.description),
     ("condition", .ofOption Condition.toJson r.condition),
     ("action", .ofText? r.action),
     ("location", r.location.toJson)]

def ofJson? (value : Json) : Option Rule := do
  let entries ← value.record?
    ["description", "condition", "action", "location"]
  let description ←
    Json.field? entries "description" Json.string?
  let condition ←
    Json.optionalField? entries "condition" Condition.ofJson?
  let action ←
    Json.optionalField? entries "action" Json.string?
  let location ←
    Json.field? entries "location" Location.ofJson?
  return ⟨description, condition, action, location⟩

end Rule

end Blueprint

------------------------------------------------------------
-- Integrations and Events
------------------------------------------------------------

namespace Blueprint

namespace Integration

def toJson (i : Integration) : Json :=
  .object
    [("name", .string i.name),
     ("endpoint", .ofText? i.endpoint),
     ("purpose", .ofText? i.purpose),
     ("location", i.location.toJson)]

def ofJson? (value : Json) : Option Integration := do
  let entries ← value.record?
    ["name", "endpoint", "purpose", "location"]
  let name ← Json.field? entries "name" Json.string?
  let endpoint ←
    Json.optionalField? entries "endpoint" Json.string?
  let purpose ←
    Json.optionalField? entries "purpose" Json.string?
  let location ←
    Json.field? entries "location" Location.ofJson?
  return ⟨name, endpoint, purpose, location⟩

end Integration

namespace Event

def toJson (e : Event) : Json :=
  .object
    [("name", .string e.name),
     ("fields", .ofStrings e.fields),
     ("location", e.location.toJson)]

def ofJson? (value : Json) : Option Event := do
  let entries ← value.record? ["name", "fields", "location"]
  let name ← Json.field? entries "name" Json.string?
  let fields ← Json.field? entries "fields" Json.strings?
  let location ←
    Json.field? entries "location" Location.ofJson?
  return ⟨name, fields, location⟩

end Event

end Blueprint

------------------------------------------------------------
-- Specifications
------------------------------------------------------------

namespace Blueprint

namespace Spec

/- The names of the parts of a specification in JSON. -/
def jsonNames : List String :=
  ["app_name", "entities", "screens", "flows", "rules",
   "integrations", "events"]

def toJson (spec : Spec) : Json :=
  .object
    [("app_name", .string spec.appName),
     ("entities", .ofList Entity.toJson spec.entities),
     ("screens", .ofList Screen.toJson spec.screens),
     ("flows", .ofList Flow.toJson spec.flows),
     ("rules", .ofList Rule.toJson spec.rules),
     ("integrations",
       .ofList Integration.toJson spec.integrations),
     ("events", .ofList Event.toJson spec.events)]

def ofJson? (value : Json) : Option Spec := do
  let entries ← value.record? jsonNames
  let appName ← Json.field? entries "app_name" Json.string?
  let entities ←
    Json.field? entries "entities" (Json.list? Entity.ofJson?)
  let screens ←
    Json.field? entries "screens" (Json.list? Screen.ofJson?)
  let flows ←
    Json.field? entries "flows" (Json.list? Flow.ofJson?)
  let rules ←
    Json.field? entries "rules" (Json.list? Rule.ofJson?)
  let integrations ←
    Json.field? entries "integrations"
      (Json.list? Integration.ofJson?)
  let events ←
    Json.field? entries "events" (Json.list? Event.ofJson?)
  return ⟨appName, entities, screens, flows, rules,
    integrations, events⟩

end Spec

end Blueprint

------------------------------------------------------------
-- Readings
------------------------------------------------------------

namespace Blueprint

namespace Fault

def toJson (fault : Fault) : Json :=
  .object
    [("file", .string fault.location.file),
     ("line", .ofNat fault.location.line),
     ("message", .string fault.cause.message)]

end Fault

namespace Spec

/-
  The outcome of reading a document as JSON: the
  specification on success, and the faults on failure.
-/
def readingToJson : Except (List Fault) Spec → Json
| .ok spec =>
    .object
      [("success", .bool true),
       ("spec", spec.toJson),
       ("errors", .array [])]
| .error faults =>
    .object
      [("success", .bool false),
       ("errors", .ofList Fault.toJson faults)]

end Spec

end Blueprint
