import Blueprint.Declared
import Blueprint.Issue
import Blueprint.Prose.Reference
import Blueprint.Spec

/-
  Wiring checks: the declarations refer to each other so
  that they make up one app.

  Every entity should be referred to, a form should collect
  what its entity requires, and entities that refer to each
  other are pointed out.

  Main definitions:
    * `WiringCounts`
    * `referencedNames`
    * `unreferencedIssues`, `requiredIssues`,
      `circularIssues`
    * `wiringIssues`, `wiringCounts`
-/

------------------------------------------------------------
-- Unreferenced Entities
------------------------------------------------------------

namespace Blueprint

/- The first declaration of every entity. -/
def Spec.uniqueEntities (spec : Spec) : List Entity :=
  firsts Entity.name spec.entities

/- The entities that the fields of another entity refer to. -/
def foreignTargets (e : Entity) : List String :=
  e.fields.filterMap fun f =>
    match f.type.target? with
    | none => none
    | some target =>
        if target = e.name then none else some target

/- The texts of a rule that may refer to entities. -/
def ruleTexts (r : Rule) : List String :=
  (match r.condition with
  | some (.plain text) => [text]
  | some (.ai call) => [call.input]
  | none => []) ++ r.action.toList

/- The entities that a text of a rule refers to. -/
def textNames
    (names : List String)
    (text : String) : List String :=
  (Reference.ofText names text).entity.toList ++
    (mentionedEntity? names text).toList

/- The names that screens, fields, rules and events refer to. -/
def referencedNames (spec : Spec) : List String :=
  let names := spec.entities.map Entity.name
  spec.screens.filterMap Screen.entity ++
    spec.entities.flatMap foreignTargets ++
    spec.rules.flatMap (fun r =>
      (ruleTexts r).flatMap (textNames names)) ++
    spec.events.flatMap (fun e =>
      e.fields.filterMap (mentionedEntity? names))

/- The issues of entities that nothing refers to. -/
def unreferencedIssues (spec : Spec) : List Issue :=
  let referenced := referencedNames spec
  spec.uniqueEntities.filterMap fun e =>
    if referenced.contains e.name then
      none
    else
      some (.of (.info (.wiringUnreferencedEntity e.name))
        e.location)

end Blueprint

------------------------------------------------------------
-- Required Fields
------------------------------------------------------------

namespace Blueprint

/-
  The entity that a form collects fields of: a form with
  listed fields that is bound to a declared entity.
-/
def formEntity?
    (spec : Spec)
    (s : Screen) : Option Entity :=
  if s.kind = .form && !s.fields.isEmpty then
    s.entity.bind spec.entity?
  else
    none

def requiredFields (e : Entity) : List Field :=
  e.fields.filter fun f => f.modifiers.required

/- The required fields that a screen should list. -/
def expectedFields
    (spec : Spec)
    (s : Screen) : List (Entity × Field) :=
  match formEntity? spec s with
  | none => []
  | some e => (requiredFields e).map fun f => (e, f)

/- The issues of required fields that a form does not list. -/
def requiredIssues
    (spec : Spec)
    (s : Screen) : List Issue :=
  (expectedFields spec s).filterMap fun (e, f) =>
    if s.fields.contains f.name then
      none
    else
      some (.of
        (.warning
          (.wiringFormMissingRequired s.name e.name f.name))
        s.location)

end Blueprint

------------------------------------------------------------
-- Circular Relationships
------------------------------------------------------------

namespace Blueprint

/- The entities that the fields of an entity refer to. -/
def targets (e : Entity) : List String :=
  e.fields.filterMap fun f => f.type.target?

/- An entity refers to another by a relationship or a list. -/
def refersTo
    (entities : List Entity)
    (source target : String) : Bool :=
  entities.any fun e =>
    e.name == source && (targets e).contains target

/- Two names in ascending order. -/
def orderedPair (a b : String) : String × String :=
  if a < b then (a, b) else (b, a)

/- A field that refers from one entity to another. -/
structure Reach where
  source : String
  target : String
  location : Location
deriving DecidableEq, Repr

namespace Reach

/- The two entities that a field connects, in order. -/
def pair (r : Reach) : String × String :=
  orderedPair r.source r.target

/- The fields of an entity that refer to another entity. -/
def ofEntity (e : Entity) : List Reach :=
  e.fields.filterMap fun f =>
    match f.type.target? with
    | none => none
    | some target =>
        if target = e.name then
          none
        else
          some ⟨e.name, target, f.location⟩

/-
  The first field for every pair of entities that `seen`
  does not have yet.
-/
def firstOfPairs
    (seen : List (String × String)) :
    List Reach → List Reach
| [] => []
| r :: rs =>
    if seen.contains r.pair then
      firstOfPairs seen rs
    else
      r :: firstOfPairs (r.pair :: seen) rs

end Reach

/- The issues of entities that refer to each other. -/
def circularIssues (spec : Spec) : List Issue :=
  let entities := spec.uniqueEntities
  let returned := (entities.flatMap Reach.ofEntity).filter
    fun r => refersTo entities r.target r.source
  (Reach.firstOfPairs [] returned).map fun r =>
    .of
      (.info (.wiringCircularRelationship r.source r.target))
      r.location

end Blueprint

------------------------------------------------------------
-- Wiring
------------------------------------------------------------

namespace Blueprint

/- How much the wiring checks have looked at. -/
structure WiringCounts where
  relationshipsChecked : Nat
  wiringChecks : Nat
deriving DecidableEq, Repr

/- The number of required fields that forms should list. -/
def requiredCount (spec : Spec) : Nat :=
  (spec.screens.flatMap (expectedFields spec)).length

/- How much there is to look at in a specification. -/
def wiringCounts (spec : Spec) : WiringCounts where
  relationshipsChecked :=
    (spec.uniqueEntities.flatMap targets).length
  wiringChecks :=
    spec.uniqueEntities.length + requiredCount spec

/- The wiring issues of a specification. -/
def wiringIssues (spec : Spec) : List Issue :=
  unreferencedIssues spec ++
    spec.screens.flatMap (requiredIssues spec) ++
    circularIssues spec

end Blueprint
