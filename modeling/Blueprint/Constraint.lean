import Blueprint.Prose.Comparison
import Blueprint.Prose.Reference
import Blueprint.Spec

/-
  Constraints: what a rule demands, as far as it can be
  guessed from its text.

  A rule gives at most one condition constraint, followed by
  at most one action constraint.

  Main definitions:
    * `ConstraintKind`, `Constraint`
    * `Constraint.target?`
    * `conditionConstraint?`
    * `constraintsOfRule`
    * `constraints`
-/

------------------------------------------------------------
-- Constraints
------------------------------------------------------------

namespace Blueprint

/-
  What is constrained: the value of a field, the answer of
  an AI, or the action that a rule fires.
-/
inductive ConstraintKind where
| fieldValue
| aiCondition
| actionTrigger
deriving DecidableEq, Repr

namespace ConstraintKind

/- The word that a kind is written with. -/
def word : ConstraintKind → String
| .fieldValue => "field_value"
| .aiCondition => "ai_condition"
| .actionTrigger => "action_trigger"

end ConstraintKind

/-
  A demand of the rule at a place in the list of rules. A
  condition is a value or a prompt; an action is a verb.
-/
structure Constraint where
  kind : ConstraintKind
  entity : Option String
  field : Option String
  condition : Option String
  action : Option String
  ruleIndex : Nat
deriving DecidableEq, Repr

namespace Constraint

/- What is constrained, as `entity.field` or `field`. -/
def target? (c : Constraint) : Option String :=
  match c.entity, c.field with
  | some entity, some field => some (entity ++ "." ++ field)
  | none, some field => some field
  | _, none => none

end Constraint

end Blueprint

------------------------------------------------------------
-- Conditions
------------------------------------------------------------

namespace Blueprint

/- The subject of a comparison in the text of a condition. -/
def comparisonSubject
    (names : List String)
    (text : String)
    (c : Comparison) : Reference :=
  let subject := Reference.ofText names c.subject
  match subject.entity with
  | some _ => subject
  | none =>
      { subject with entity := mentionedEntity? names text }

/- What a condition is about. -/
def conditionSubject
    (names : List String) : Option Condition → Reference
| some (.plain text) =>
    match Comparison.ofText? text with
    | some c => comparisonSubject names text c
    | none => ⟨mentionedEntity? names text, none⟩
| some (.ai call) => Reference.ofText names call.input
| none => .empty

/- The kind and the condition of what a condition demands. -/
def conditionDemand? :
    Option Condition → Option (ConstraintKind × String)
| some (.plain text) =>
    (Comparison.ofText? text).map fun c =>
      (.fieldValue, c.value)
| some (.ai call) => some (.aiCondition, call.prompt)
| none => none

/- The constraint of the condition of a rule. -/
def conditionConstraint?
    (names : List String)
    (index : Nat)
    (r : Rule) : Option Constraint :=
  let subject := conditionSubject names r.condition
  (conditionDemand? r.condition).map fun (kind, condition) =>
    { kind := kind
      entity := subject.entity
      field := subject.field
      condition := some condition
      action := none
      ruleIndex := index }

end Blueprint

------------------------------------------------------------
-- Actions
------------------------------------------------------------

namespace Blueprint

/-
  The entity that an action is applied to: the one that it
  mentions, or else the one that the condition is about.
-/
def actionEntity?
    (names : List String)
    (subject : Reference)
    (action : String) : Option String :=
  (mentionedEntity? names action).or subject.entity

/- The constraint of the action of a rule. -/
def actionConstraint?
    (names : List String)
    (index : Nat)
    (r : Rule) : Option Constraint :=
  let subject := conditionSubject names r.condition
  r.action.bind fun action =>
    (actionVerb? action).map fun verb =>
      { kind := .actionTrigger
        entity := actionEntity? names subject action
        field := subject.field
        condition := none
        action := some verb
        ruleIndex := index }

end Blueprint

------------------------------------------------------------
-- Rules
------------------------------------------------------------

namespace Blueprint

/- The constraints of the rule at an index. -/
def constraintsOfRule
    (names : List String)
    (index : Nat)
    (r : Rule) : List Constraint :=
  (conditionConstraint? names index r).toList ++
    (actionConstraint? names index r).toList

/- The constraints of rules that are counted from `index`. -/
def constraintsFrom
    (names : List String)
    (index : Nat) : List Rule → List Constraint
| [] => []
| r :: rs =>
    constraintsOfRule names index r ++
      constraintsFrom names (index + 1) rs

/-
  The constraints of the rules of a specification, where
  `names` are the names of the entities.
-/
def constraints
    (spec : Spec)
    (names : List String) : List Constraint :=
  constraintsFrom names 0 spec.rules

end Blueprint
