import Blueprint.Constraint
import Blueprint.Declared
import Blueprint.Issue
import Blueprint.TypeEnv

/-
  Conflicts between rules: conditions that expect opposite
  values of one field, actions that contradict each other,
  and fields that too many rules look at.

  Main definitions:
    * `conflictFinding?`
    * `pairIssues`
    * `overloadIssues`
    * `conflictIssues`
-/

------------------------------------------------------------
-- Opposite Demands
------------------------------------------------------------

namespace Blueprint

/-
  Two values in the order in which they are shown, if they
  exclude each other: an antonym pair as the table has it,
  or a value before its negation.
-/
def oppositeValues?
    (x y : String) : Option (String × String) :=
  match oppositePair? antonyms x y with
  | some pair => some pair
  | none =>
      if isNegationOf x y then
        if x.utf8ByteSize ≤ y.utf8ByteSize then
          some (x, y)
        else
          some (y, x)
      else
        none

/- The opposite values that two constraints expect. -/
def conflictingValues?
    (a b : Constraint) : Option (String × String) :=
  if a.field.isSome && a.entity = b.entity &&
      a.field = b.field then
    match a.condition, b.condition with
    | some x, some y => oppositeValues? x y
    | _, _ => none
  else
    none

/- The contradictory verbs of two constraints. -/
def contradictoryVerbs?
    (a b : Constraint) : Option (String × String) :=
  if a.entity.isSome && a.entity = b.entity then
    match a.action, b.action with
    | some x, some y => oppositePair? contradictions x y
    | _, _ => none
  else
    none

/- The finding about two constraints of rules so described. -/
def conflictFinding?
    (first second : String)
    (a b : Constraint) : Option Finding :=
  match a.kind, b.kind with
  | .fieldValue, .fieldValue =>
      (conflictingValues? a b).bind fun (left, right) =>
        a.target?.map fun target =>
          .warning <| .constraintConflictingConditions
            first second target left right
  | .actionTrigger, .actionTrigger =>
      (contradictoryVerbs? a b).bind fun (left, right) =>
        a.entity.map fun entity =>
          .warning <| .constraintContradictoryActions
            first second left right entity
  | _, _ => none

end Blueprint

------------------------------------------------------------
-- Pairs of Constraints
------------------------------------------------------------

namespace Blueprint

/- The issue of two constraints of different rules. -/
def pairIssue?
    (rules : List Rule)
    (a b : Constraint) : Option Issue :=
  if a.ruleIndex = b.ruleIndex then
    none
  else
    match rules[a.ruleIndex]?, rules[b.ruleIndex]? with
    | some r, some s =>
        let (first, second) :=
          if s.description < r.description then
            (s.description, r.description)
          else
            (r.description, s.description)
        let later :=
          if a.ruleIndex < b.ruleIndex then s else r
        (conflictFinding? first second a b).map
          (.of · later.location)
    | _, _ => none

/- The issues of all pairs of constraints, in order. -/
def pairIssues
    (rules : List Rule) : List Constraint → List Issue
| [] => []
| a :: rest =>
    rest.filterMap (pairIssue? rules a) ++
      pairIssues rules rest

end Blueprint

------------------------------------------------------------
-- Overloaded Fields
------------------------------------------------------------

namespace Blueprint

/- More conditions than this on one field are too many. -/
def overloadThreshold : Nat :=
  5

/-
  The field of an entity that a condition is about, with the
  constraint. Actions do not count.
-/
def countedTarget?
    (c : Constraint) : Option (String × Constraint) :=
  match c.kind, c.entity with
  | .actionTrigger, _ => none
  | _, none => none
  | _, some _ => c.target?.map fun target => (target, c)

/- The issue of a target on which constraints are placed. -/
def overloadIssue?
    (rules : List Rule)
    (counted : List (String × Constraint))
    (target : String) : Option Issue :=
  let group := counted.filter fun (t, _) => t == target
  if overloadThreshold < group.length then
    group.head?.bind fun (_, c) =>
      rules[c.ruleIndex]?.map fun r =>
        .of
          (.info
            (.constraintFieldOverloaded target group.length))
          r.location
  else
    none

/- The issues of overloaded fields, in order of the fields. -/
def overloadIssues
    (rules : List Rule)
    (cs : List Constraint) : List Issue :=
  let counted := cs.filterMap countedTarget?
  let targets := sortNames
    ((firsts Prod.fst counted).map Prod.fst)
  targets.filterMap (overloadIssue? rules counted)

end Blueprint

------------------------------------------------------------
-- Conflicts
------------------------------------------------------------

namespace Blueprint

/- The issues of conflicting rules of a specification. -/
def conflictIssues
    (spec : Spec)
    (env : TypeEnv) : List Issue :=
  let cs := constraints spec env.entityNames
  pairIssues spec.rules cs ++ overloadIssues spec.rules cs

end Blueprint
