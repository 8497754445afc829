import Blueprint.Issue
import Blueprint.Naming
import Blueprint.Spec

/-
  Style checks: names, and declarations that look forgotten.
  Every finding is for information.

  Main definitions:
    * `entityStyle`, `fieldStyle`, `screenStyle`, `flowStyle`
    * `styleIssues`
-/

------------------------------------------------------------
-- Entities
------------------------------------------------------------

namespace Blueprint

/- A name rewritten in the style of entities and screens. -/
def betterName (name : String) : String :=
  String.ofList (toPascalCase name.toList)

/- The style findings about an entity itself. -/
def entityStyle
    (shown : List String)
    (e : Entity) : List Finding :=
  (if isPascalCase e.name.toList then
    []
  else
    [.info (.lintEntityName e.name (betterName e.name))]) ++
  (if shown.contains e.name then
    []
  else
    [.info (.lintUnusedEntity e.name)]) ++
  (if e.fields.isEmpty ||
      e.fields.any (·.modifiers.required) then
    []
  else
    [.info (.lintNoRequiredFields e.name)])

def fieldStyle
    (entity : String)
    (f : Field) : List Finding :=
  let name := f.name.toList
  (if isLowerCamelCase name || isSnakeCase name then
    []
  else
    [.info (.lintFieldName entity f.name)]) ++
  (if isSensitive name && f.type ≠ .scalar .text then
    [.info
      (.lintSensitiveFieldType entity f.name f.type.keyword)]
  else
    [])

/- The style issues of an entity and its fields. -/
def entityStyleIssues
    (shown : List String)
    (e : Entity) : List Issue :=
  (entityStyle shown e).map (.of · e.location) ++
    e.fields.flatMap fun f =>
      (fieldStyle e.name f).map (.of · f.location)

end Blueprint

------------------------------------------------------------
-- Screens, Flows and Rules
------------------------------------------------------------

namespace Blueprint

def screenStyle (s : Screen) : List Finding :=
  (if isPascalCase s.name.toList then
    []
  else
    [.info (.lintScreenName s.name (betterName s.name))]) ++
  (if s.entity.isNone && s.kind ≠ .dashboard then
    [.info (.lintUnboundScreen s.name)]
  else
    [])

def flowStyle (f : Flow) : List Finding :=
  (if wordCount f.name.toList < 2 then
    [.info (.lintFlowName f.name)]
  else
    []) ++
  (if f.steps.isEmpty then
    [.info (.lintEmptyFlow f.name)]
  else if longFlowThreshold < f.steps.length then
    [.info (.lintLongFlow f.name f.steps.length)]
  else
    [])

def ruleStyle (r : Rule) : List Finding :=
  if r.action.isNone then
    [.info (.lintRuleWithoutAction r.description)]
  else
    []

/- The style issues of a specification. -/
def styleIssues (spec : Spec) : List Issue :=
  let shown := spec.screens.filterMap Screen.entity
  spec.entities.flatMap (entityStyleIssues shown) ++
    spec.screens.flatMap (fun s =>
      (screenStyle s).map (.of · s.location)) ++
    spec.flows.flatMap (fun f =>
      (flowStyle f).map (.of · f.location)) ++
    spec.rules.flatMap (fun r =>
      (ruleStyle r).map (.of · r.location))

end Blueprint
