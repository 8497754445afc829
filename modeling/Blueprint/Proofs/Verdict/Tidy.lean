import Blueprint.Constraint
import Blueprint.Proofs.FirstDeclaration
import Blueprint.Proofs.Verdict.WellFormed
import Blueprint.Prose.Opposites

/-
  Tidy specifications, told declaration by declaration: what
  has to be filled in, numbered, answered and collected, and
  what rules must not demand together.

  Main definitions:
    * `Flow.Tidy`
    * `Screen.Tidy`
    * `Rule.Tidy`
    * `Constraint.Clashes`, `Constraint.Compatible`
    * `Spec.Tidy`
-/

------------------------------------------------------------
-- Flows and Screens
------------------------------------------------------------

namespace Blueprint

/- A flow has steps, numbered from one on in their order. -/
structure Flow.Tidy (f : Flow) : Prop where
  steps : f.steps ≠ []
  numbered :
    ∀ k step,
      f.steps[k]? = some step → step.order.toNat = k + 1

/-
  A dashboard has a widget. A form that is bound to a
  declared entity lists no name that belongs to a list of
  entities, and if it lists any names, then also those of
  all required fields. Of entities and of fields, the first
  declaration counts.
-/
structure Screen.Tidy
    (spec : Spec)
    (s : Screen) : Prop where
  widgets : s.kind = .dashboard → s.widgets ≠ []
  editable :
    ∀ name e,
      s.kind = .form → s.entity = some name →
        FirstNamed Entity.name spec.entities name e →
          ∀ field ∈ s.fields, ∀ f,
            FirstNamed Field.name e.fields field f →
              ∀ target, f.type ≠ .list target
  required :
    ∀ name e,
      s.kind = .form → s.entity = some name →
        FirstNamed Entity.name spec.entities name e →
          s.fields ≠ [] →
            ∀ f ∈ e.fields, f.modifiers.required = true →
              f.name ∈ s.fields

end Blueprint

------------------------------------------------------------
-- Rules
------------------------------------------------------------

namespace Blueprint

open Text

/-
  A question to an AI with an input of the form
  `entity.field` asks for a field that the entity has, if
  the entity is declared and the field is not left blank.
-/
def Rule.Tidy
    (spec : Spec)
    (r : Rule) : Prop :=
  ∀ call entity field,
    r.condition = some (.ai call) →
      call.input.toList = entity ++ '.' :: field →
        '.' ∉ entity → ¬ AllBlank entity →
          ¬ AllBlank field →
            ∀ e, FirstNamed Entity.name spec.entities
                (capitalized (trim entity)) e →
              ∃ f ∈ e.fields,
                f.name = String.ofList (trim field)

/- Two words are a pair of a table, in either order. -/
def ArePair
    (table : List (String × String))
    (x y : String) : Prop :=
  (x, y) ∈ table ∨ (y, x) ∈ table

/- The first value is the other one with a negation. -/
def Negates (x y : String) : Prop :=
  ∃ rest,
    trim rest = trim y.toList ∧
      (trim x.toList = "not ".toList ++ rest ∨
        trim x.toList = '!' :: rest)

/-
  Two constraints clash: they expect opposite values of one
  field of one entity, or of no entity, or they demand
  contradictory actions on one entity.
-/
inductive Constraint.Clashes (a b : Constraint) : Prop
| values
    {field x y : String}
    (first : a.kind = .fieldValue)
    (second : b.kind = .fieldValue)
    (entity : a.entity = b.entity)
    (firstField : a.field = some field)
    (secondField : b.field = some field)
    (firstValue : a.condition = some x)
    (secondValue : b.condition = some y)
    (opposite :
      ArePair antonyms x y ∨ Negates x y ∨ Negates y x) :
    Clashes a b
| actions
    {entity x y : String}
    (first : a.kind = .actionTrigger)
    (second : b.kind = .actionTrigger)
    (firstEntity : a.entity = some entity)
    (secondEntity : b.entity = some entity)
    (firstVerb : a.action = some x)
    (secondVerb : b.action = some y)
    (contradictory : ArePair contradictions x y) :
    Clashes a b

/- Constraints of different rules do not clash. -/
def Constraint.Compatible (a b : Constraint) : Prop :=
  a.ruleIndex ≠ b.ruleIndex → ¬ a.Clashes b

/- The names of the entities of a specification. -/
def Spec.entityNames (spec : Spec) : List String :=
  spec.entities.map Entity.name

end Blueprint

------------------------------------------------------------
-- Specifications
------------------------------------------------------------

namespace Blueprint

/- Some step of a flow or some rule leaves it to an AI. -/
def Spec.AsksAi (spec : Spec) : Prop :=
  (∃ f ∈ spec.flows, ∃ step ∈ f.steps, step.ai = true) ∨
    ∃ r ∈ spec.rules, ∃ call, r.condition = some (.ai call)

/-
  Everything declared is tidy, an integration answers if an
  AI is asked, and no two rules clash.
-/
structure Spec.Tidy (spec : Spec) : Prop where
  entities : ∀ e ∈ spec.entities, e.fields ≠ []
  events : ∀ e ∈ spec.events, e.fields ≠ []
  flows : ∀ f ∈ spec.flows, f.Tidy
  screens : ∀ s ∈ spec.screens, s.Tidy spec
  rules : ∀ r ∈ spec.rules, r.Tidy spec
  answered :
    spec.AsksAi →
      ∃ i ∈ spec.integrations, isAiCapable i = true
  compatible :
    ∀ a ∈ constraints spec spec.entityNames,
      ∀ b ∈ constraints spec spec.entityNames,
        a.Compatible b

end Blueprint
