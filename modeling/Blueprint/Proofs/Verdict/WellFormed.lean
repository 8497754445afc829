import Blueprint.Integration.Capability
import Blueprint.Prose.Reference
import Blueprint.Spec

/-
  Well-formed specifications, told declaration by
  declaration: what has to be declared, named, filled in and
  in order, without a table of any kind.

  Main definitions:
    * `FieldType.WellFormed`, `Field.WellFormed`
    * `Screen.WellFormed`
    * `FlowStep.WellFormed`
    * `Rule.WellFormed`
    * `Integration.WellFormed`
    * `Spec.WellFormed`
-/

------------------------------------------------------------
-- Names and Texts
------------------------------------------------------------

namespace Blueprint

open Text

/- Every character of a text is blank. -/
def AllBlank (text : List Char) : Prop :=
  ∀ c ∈ text, isBlank c = true

/- Some declared entity has the name. -/
def Spec.Declares
    (spec : Spec)
    (name : String) : Prop :=
  ∃ e ∈ spec.entities, e.name = name

end Blueprint

------------------------------------------------------------
-- Fields
------------------------------------------------------------

namespace Blueprint

/-
  A type is recognized and complete, and its target is
  declared.
-/
def FieldType.WellFormed
    (spec : Spec) : FieldType → Prop
| .scalar _ => True
| .enum values => values ≠ []
| .relationship target => spec.Declares target
| .list target => spec.Declares target
| .ai prompt => ¬ AllBlank prompt.toList
| .computed expression => ¬ AllBlank expression.toList
| .unrecognized _ => False

/- A field has such a type, and its bounds are in order. -/
structure Field.WellFormed
    (spec : Spec)
    (f : Field) : Prop where
  type : f.type.WellFormed spec
  bounds :
    ∀ min max,
      f.modifiers.min = some min →
        f.modifiers.max = some max → min ≤ max

end Blueprint

------------------------------------------------------------
-- Screens and Flows
------------------------------------------------------------

namespace Blueprint

/- The field names in the lists and the steps of a screen. -/
def Screen.namedFields (s : Screen) : List String :=
  s.fields ++ s.filters ++ s.steps.flatMap WizardStep.fields

/-
  A screen and its widgets are of known kinds, the entity of
  the screen is declared and its first declaration has the
  named fields, and a wizard has a step.
-/
structure Screen.WellFormed
    (spec : Spec)
    (s : Screen) : Prop where
  kind : ∀ raw, s.kind ≠ .unrecognized raw
  widgets :
    ∀ w ∈ s.widgets, ∀ raw, w.kind ≠ .unrecognized raw
  entity : ∀ name, s.entity = some name → spec.Declares name
  fields :
    ∀ name e,
      s.entity = some name → spec.entity? name = some e →
        ∀ field ∈ s.namedFields,
          ∃ f ∈ e.fields, f.name = field
  steps : s.kind = .wizard → s.steps ≠ []

/- An AI step says what to do. -/
def FlowStep.WellFormed (step : FlowStep) : Prop :=
  step.ai = true →
    ∃ action,
      step.action = some action ∧ ¬ AllBlank action.toList

end Blueprint

------------------------------------------------------------
-- Rules and Integrations
------------------------------------------------------------

namespace Blueprint

open Text

/-
  A rule is described and demands something. A question to
  an AI has an input and a prompt, and an input of the form
  `entity.field` refers to a declared entity, whose name is
  written with its first letter in uppercase.
-/
structure Rule.WellFormed
    (spec : Spec)
    (r : Rule) : Prop where
  description : ¬ AllBlank r.description.toList
  body : r.condition ≠ none ∨ r.action ≠ none
  call :
    ∀ call,
      r.condition = some (.ai call) →
        ¬ AllBlank call.input.toList ∧
          ¬ AllBlank call.prompt.toList
  input :
    ∀ call entity field,
      r.condition = some (.ai call) →
        call.input.toList = entity ++ '.' :: field →
          '.' ∉ entity → ¬ AllBlank entity →
            spec.Declares (capitalized (trim entity))

/- An endpoint is an absolute web address with a host. -/
def Integration.WellFormed (i : Integration) : Prop :=
  ∀ endpoint,
    i.endpoint = some endpoint →
      ∃ url, Url.parse? endpoint = some url ∧
        (url.scheme = "http" ∨ url.scheme = "https") ∧
          url.host ≠ none

end Blueprint

------------------------------------------------------------
-- Specifications
------------------------------------------------------------

namespace Blueprint

/-
  The declarations of a kind have different names, and so
  have the fields of every entity, also of a repeated one.
  Rules need no names. Everything declared is well-formed.
-/
structure Spec.WellFormed (spec : Spec) : Prop where
  entityNames : (spec.entities.map Entity.name).Nodup
  screenNames : (spec.screens.map Screen.name).Nodup
  flowNames : (spec.flows.map Flow.name).Nodup
  integrationNames :
    (spec.integrations.map Integration.name).Nodup
  eventNames : (spec.events.map Event.name).Nodup
  fieldNames :
    ∀ e ∈ spec.entities, (e.fields.map Field.name).Nodup
  fields :
    ∀ e ∈ spec.entities, ∀ f ∈ e.fields, f.WellFormed spec
  screens : ∀ s ∈ spec.screens, s.WellFormed spec
  steps :
    ∀ f ∈ spec.flows, ∀ step ∈ f.steps, step.WellFormed
  rules : ∀ r ∈ spec.rules, r.WellFormed spec
  integrations :
    ∀ i ∈ spec.integrations, i.WellFormed

end Blueprint
