import Blueprint.Field.Type
import Blueprint.Issue.Code
import Blueprint.Screen.Kind

/-
  Findings: everything the checks can report, with its code,
  its wording and the advice that goes with it. The check
  that makes a finding says how severe it is.

  Main definitions:
    * `Matter`
    * `Matter.code`, `Matter.message`, `Matter.suggestion?`
    * `Finding`
    * `Finding.error`, `Finding.warning`, `Finding.info`
-/

------------------------------------------------------------
-- Matters
------------------------------------------------------------

namespace Blueprint

/- What a rule with an AI condition is called in a message. -/
def ruleLabel
    (description : String)
    (line : Nat) : String :=
  if description.isEmpty then
    s!"rule at line {line}"
  else
    s!"rule '{description}'"

/- What the checks can report about a specification. -/
inductive Matter where
| duplicateEntity (name : String) (firstLine : Nat)
| duplicateField (field entity : String) (firstLine : Nat)
| duplicateScreen (name : String) (firstLine : Nat)
| duplicateFlow (name : String) (firstLine : Nat)
| entityNoFields (entity : String)
| fieldInvalidType (entity field raw : String)
| fieldEmptyEnum (entity field : String)
| fieldMinExceedsMax (entity field : String) (min max : Int64)
| fieldAiMissingPrompt (entity field : String)
| fieldEmptyComputed (entity field : String)
| fieldUnknownEntity (entity field target : String)
| screenInvalidKind (screen raw : String)
| screenUnknownEntity (screen entity : String)
| screenUnknownField (screen field entity : String)
| screenWizardNoSteps (screen : String)
| screenDashboardNoWidgets (screen : String)
| screenInvalidWidgetKind (label screen raw : String)
| flowNoSteps (flow : String)
| flowNonSequential
    (flow : String) (order : UInt32) (expected : Nat)
| flowAiStepEmpty (order : UInt32) (flow : String)
| flowAiWithoutIntegration (flow : String)
| ruleMissingDescription (rule : String)
| ruleEmpty (rule : String)
| ruleAiIncomplete (rule : String) (missing : List String)
| ruleAiWithoutIntegration (rule : String)
| integrationDuplicate (name : String) (firstLine : Nat)
| integrationInvalidEndpoint (integration endpoint : String)
| eventDuplicate (name : String) (firstLine : Nat)
| eventNoFields (event : String)
| typeListOnForm (screen entity field target : String)
| typeAiFieldOnForm (screen entity field : String)
| typeUnknownRuleEntity (rule input entity : String)
| typeUnknownRuleField
    (rule input entity field : String) (known : List String)
| constraintConflictingConditions
    (first second target left right : String)
| constraintContradictoryActions
    (first second left right entity : String)
| constraintFieldOverloaded (target : String) (count : Nat)
| boundaryMoney (entity field : String)
| boundaryTemporal (entity field keyword : String)
| boundaryAiDerived (entity field : String)
| boundaryLargeEnum (entity field : String) (count : Nat)
| wiringUnreferencedEntity (entity : String)
| wiringFormMissingRequired (screen entity field : String)
| wiringCircularRelationship (entity target : String)
| lintEntityName (name better : String)
| lintScreenName (name better : String)
| lintFieldName (entity field : String)
| lintFlowName (flow : String)
| lintUnusedEntity (entity : String)
| lintNoRequiredFields (entity : String)
| lintUnboundScreen (screen : String)
| lintRuleWithoutAction (rule : String)
| lintEmptyFlow (flow : String)
| lintSensitiveFieldType (entity field keyword : String)
| lintLongFlow (flow : String) (count : Nat)
deriving DecidableEq, Repr

namespace Matter

def code : Matter → Code
| .duplicateEntity .. => .duplicateEntity
| .duplicateField .. => .duplicateField
| .duplicateScreen .. => .duplicateScreen
| .duplicateFlow .. => .duplicateFlow
| .entityNoFields .. => .entityNoFields
| .fieldInvalidType .. => .fieldInvalidType
| .fieldEmptyEnum .. => .fieldEmptyEnum
| .fieldMinExceedsMax .. => .fieldMinExceedsMax
| .fieldAiMissingPrompt .. => .fieldAiMissingPrompt
| .fieldEmptyComputed .. => .fieldEmptyComputed
| .fieldUnknownEntity .. => .fieldUnknownEntity
| .screenInvalidKind .. => .screenInvalidKind
| .screenUnknownEntity .. => .screenUnknownEntity
| .screenUnknownField .. => .screenUnknownField
| .screenWizardNoSteps .. => .screenWizardNoSteps
| .screenDashboardNoWidgets .. => .screenDashboardNoWidgets
| .screenInvalidWidgetKind .. => .screenInvalidWidgetKind
| .flowNoSteps .. => .flowNoSteps
| .flowNonSequential .. => .flowNonSequential
| .flowAiStepEmpty .. => .flowAiStepEmpty
| .flowAiWithoutIntegration .. => .flowAiWithoutIntegration
| .ruleMissingDescription .. => .ruleMissingDescription
| .ruleEmpty .. => .ruleEmpty
| .ruleAiIncomplete .. => .ruleAiIncomplete
| .ruleAiWithoutIntegration .. => .ruleAiWithoutIntegration
| .integrationDuplicate .. => .integrationDuplicate
| .integrationInvalidEndpoint .. =>
    .integrationInvalidEndpoint
| .eventDuplicate .. => .eventDuplicate
| .eventNoFields .. => .eventNoFields
| .typeListOnForm .. => .typeListOnForm
| .typeAiFieldOnForm .. => .typeAiFieldOnForm
| .typeUnknownRuleEntity .. => .typeUnknownRuleEntity
| .typeUnknownRuleField .. => .typeUnknownRuleField
| .constraintConflictingConditions .. =>
    .constraintConflictingConditions
| .constraintContradictoryActions .. =>
    .constraintContradictoryActions
| .constraintFieldOverloaded .. => .constraintFieldOverloaded
| .boundaryMoney .. => .boundaryMoney
| .boundaryTemporal .. => .boundaryTemporal
| .boundaryAiDerived .. => .boundaryAiDerived
| .boundaryLargeEnum .. => .boundaryLargeEnum
| .wiringUnreferencedEntity .. => .wiringUnreferencedEntity
| .wiringFormMissingRequired .. => .wiringFormMissingRequired
| .wiringCircularRelationship .. =>
    .wiringCircularRelationship
| .lintEntityName .. => .lintEntityName
| .lintScreenName .. => .lintScreenName
| .lintFieldName .. => .lintFieldName
| .lintFlowName .. => .lintFlowName
| .lintUnusedEntity .. => .lintUnusedEntity
| .lintNoRequiredFields .. => .lintNoRequiredFields
| .lintUnboundScreen .. => .lintUnboundScreen
| .lintRuleWithoutAction .. => .lintRuleWithoutAction
| .lintEmptyFlow .. => .lintEmptyFlow
| .lintSensitiveFieldType .. => .lintSensitiveFieldType
| .lintLongFlow .. => .lintLongFlow

end Matter

end Blueprint

------------------------------------------------------------
-- Wording
------------------------------------------------------------

namespace Blueprint

namespace Matter

/- The wording of a repeated name. -/
def duplicateMessage
    (kind name : String)
    (firstLine : Nat) : String :=
  s!"duplicate {kind} '{name}': first declared at line " ++
    toString firstLine

def message : Matter → String
| .duplicateEntity name firstLine =>
    duplicateMessage "entity" name firstLine
| .duplicateField field entity firstLine =>
    s!"duplicate field '{field}' in entity '{entity}': " ++
      s!"first declared at line {firstLine}"
| .duplicateScreen name firstLine =>
    duplicateMessage "screen" name firstLine
| .duplicateFlow name firstLine =>
    duplicateMessage "flow" name firstLine
| .entityNoFields entity =>
    s!"entity '{entity}' declares no fields"
| .fieldInvalidType entity field raw =>
    s!"field '{entity}.{field}' has invalid type '{raw}'"
| .fieldEmptyEnum entity field =>
    s!"enum field '{entity}.{field}' has no values"
| .fieldMinExceedsMax entity field min max =>
    s!"field '{entity}.{field}' has min={min} greater " ++
      s!"than max={max}"
| .fieldAiMissingPrompt entity field =>
    s!"AI field '{entity}.{field}' has no prompt"
| .fieldEmptyComputed entity field =>
    s!"computed field '{entity}.{field}' has no expression"
| .fieldUnknownEntity entity field target =>
    s!"field '{entity}.{field}' references unknown " ++
      s!"entity '{target}'"
| .screenInvalidKind screen raw =>
    s!"screen '{screen}' has invalid kind '{raw}'"
| .screenUnknownEntity screen entity =>
    s!"screen '{screen}' is bound to unknown entity " ++
      s!"'{entity}'"
| .screenUnknownField screen field entity =>
    s!"screen '{screen}' references field '{field}' which " ++
      s!"does not exist on entity '{entity}'"
| .screenWizardNoSteps screen =>
    s!"wizard screen '{screen}' has no steps"
| .screenDashboardNoWidgets screen =>
    s!"dashboard screen '{screen}' has no widgets"
| .screenInvalidWidgetKind label screen raw =>
    s!"widget '{label}' on screen '{screen}' has invalid " ++
      s!"kind '{raw}'"
| .flowNoSteps flow =>
    s!"flow '{flow}' has no steps"
| .flowNonSequential flow order expected =>
    s!"flow '{flow}' step {order} is out of sequence: " ++
      s!"expected step {expected}"
| .flowAiStepEmpty order flow =>
    s!"AI step {order} in flow '{flow}' does not say what " ++
      "the AI should do"
| .flowAiWithoutIntegration flow =>
    s!"flow '{flow}' uses AI steps but no AI-capable " ++
      "integration is declared"
| .ruleMissingDescription rule =>
    s!"{rule} has no description"
| .ruleEmpty rule =>
    s!"{rule} has neither a condition nor an action"
| .ruleAiIncomplete rule missing =>
    s!"AI condition in {rule} is missing its " ++
      String.intercalate " and " missing
| .ruleAiWithoutIntegration rule =>
    s!"{rule} uses an AI condition but no AI-capable " ++
      "integration is declared"
| .integrationDuplicate name firstLine =>
    duplicateMessage "integration" name firstLine
| .integrationInvalidEndpoint integration endpoint =>
    s!"integration '{integration}' has malformed endpoint " ++
      s!"'{endpoint}'"
| .eventDuplicate name firstLine =>
    duplicateMessage "event" name firstLine
| .eventNoFields event =>
    s!"event '{event}' has no fields"
| .typeListOnForm screen entity field target =>
    s!"form '{screen}' includes list field " ++
      s!"'{entity}.{field}' (list of {target}), which a " ++
      "form cannot edit directly"
| .typeAiFieldOnForm screen entity field =>
    s!"form '{screen}' includes AI-derived field " ++
      s!"'{entity}.{field}', which is read-only"
| .typeUnknownRuleEntity rule input entity =>
    s!"rule '{rule}' passes '{input}' to an AI condition, " ++
      s!"but entity '{entity}' is not declared"
| .typeUnknownRuleField rule input entity field _ =>
    s!"rule '{rule}' passes '{input}' to an AI condition, " ++
      s!"but '{entity}' has no field '{field}'"
| .constraintConflictingConditions
    first second target left right =>
    s!"rules '{first}' and '{second}' test {target} for " ++
      s!"conflicting values '{left}' and '{right}'"
| .constraintContradictoryActions
    first second left right entity =>
    s!"rules '{first}' and '{second}' trigger " ++
      s!"contradictory actions '{left}' and '{right}' " ++
      s!"on {entity}"
| .constraintFieldOverloaded target count =>
    s!"{target} is constrained {count} times across " ++
      "rules; consider consolidating"
| .boundaryMoney entity field =>
    s!"'{entity}.{field}' is money: store it as a " ++
      "fixed-point decimal, not a float"
| .boundaryTemporal entity field keyword =>
    s!"'{entity}.{field}' is a {keyword}: serialize as " ++
      "ISO 8601 and be explicit about time zones"
| .boundaryAiDerived entity field =>
    s!"'{entity}.{field}' is AI-derived: it may be empty " ++
      "and can change between evaluations"
| .boundaryLargeEnum entity field count =>
    s!"'{entity}.{field}' is an enum with {count} values; " ++
      "a lookup entity may be easier to maintain"
| .wiringUnreferencedEntity entity =>
    s!"entity '{entity}' is not referenced by any screen, " ++
      "relationship, rule or event"
| .wiringFormMissingRequired screen entity field =>
    s!"form '{screen}' does not collect required field " ++
      s!"'{entity}.{field}'"
| .wiringCircularRelationship entity target =>
    s!"entities '{entity}' and '{target}' reference each " ++
      "other"
| .lintEntityName name _ =>
    s!"entity name '{name}' should be PascalCase"
| .lintScreenName name _ =>
    s!"screen name '{name}' should be PascalCase"
| .lintFieldName entity field =>
    s!"field name '{entity}.{field}' should be " ++
      "lowerCamelCase or snake_case"
| .lintFlowName flow =>
    s!"flow name '{flow}' is a single word; describe the " ++
      "journey, e.g. 'Submit ticket'"
| .lintUnusedEntity entity =>
    s!"entity '{entity}' is not shown on any screen"
| .lintNoRequiredFields entity =>
    s!"entity '{entity}' has no required fields"
| .lintUnboundScreen screen =>
    s!"screen '{screen}' is not bound to an entity"
| .lintRuleWithoutAction rule =>
    s!"rule '{rule}' has no action"
| .lintEmptyFlow flow =>
    s!"flow '{flow}' is empty"
| .lintSensitiveFieldType entity field keyword =>
    s!"field '{entity}.{field}' looks like a credential " ++
      s!"but has type '{keyword}'"
| .lintLongFlow flow count =>
    s!"flow '{flow}' has {count} steps; consider " ++
      "splitting it"

end Matter

end Blueprint

------------------------------------------------------------
-- Advice
------------------------------------------------------------

namespace Blueprint

/- Flows with more steps than this are long. -/
def longFlowThreshold : Nat :=
  10

namespace Matter

/- The forms of a field type, for those who wrote another. -/
def typeAdvice : String :=
  "use one of: " ++
    String.intercalate ", " (Scalar.all.map Scalar.word) ++
    ", enum(...), ai(\"...\"), computed(...), " ++
    "<Entity> (relationship), list of <Entity>"

/- A list of accepted words. -/
def wordAdvice (words : List String) : String :=
  "use one of: " ++ String.intercalate ", " words

/- How to declare an integration that can answer. -/
def integrationAdvice : String :=
  "declare an AI-capable integration, e.g. " ++
    "`integration Claude` with `purpose: \"AI evaluation\"`"

/- What to do about a matter, where there is advice. -/
def suggestion? : Matter → Option String
| .duplicateEntity name _ =>
    some s!"rename or merge the second '{name}' entity"
| .duplicateField field _ _ =>
    some s!"rename or remove the second '{field}' field"
| .fieldInvalidType .. => some typeAdvice
| .fieldEmptyEnum .. =>
    some "list at least one value, e.g. enum(open, closed)"
| .fieldAiMissingPrompt .. =>
    some <| "write the prompt inside the call, e.g. " ++
      "ai(\"Summarize this\")"
| .fieldMinExceedsMax _ _ min max =>
    some s!"swap the bounds: min={max}, max={min}"
| .screenInvalidKind .. =>
    some (wordAdvice ScreenKind.words)
| .screenWizardNoSteps .. =>
    some <| "add a 'steps:' block with at least one " ++
      "\"Step\" → [fields] line"
| .screenDashboardNoWidgets .. =>
    some <| "add a 'widgets:' block with " ++
      "\"Label\" (kind) lines"
| .screenInvalidWidgetKind .. =>
    some (wordAdvice WidgetKind.words)
| .flowNonSequential .. =>
    some "number the steps 1, 2, 3, ... in order"
| .flowAiWithoutIntegration .. => some integrationAdvice
| .ruleMissingDescription .. =>
    some <| "describe the rule: " ++
      "rule \"Closed tickets cannot be edited\""
| .ruleEmpty .. =>
    some "add a line 'if <condition> → <action>'"
| .ruleAiIncomplete .. =>
    some <| "write the call as " ++
      "ai(entity.field, \"question\")"
| .ruleAiWithoutIntegration .. => some integrationAdvice
| .integrationInvalidEndpoint .. =>
    some <| "use an absolute URL such as " ++
      "https://api.example.com/v1"
| .eventNoFields .. =>
    some <| "add 'fields: [...]' listing the tracked " ++
      "properties"
| .typeListOnForm _ _ field _ =>
    some <| s!"show '{field}' on a list or detail screen " ++
      "instead"
| .typeUnknownRuleField _ _ entity _ known =>
    some <| s!"fields of {entity}: " ++
      String.intercalate ", " known
| .constraintConflictingConditions .. =>
    some <| "merge the rules or make their conditions " ++
      "mutually exclusive on purpose"
| .constraintContradictoryActions .. =>
    some <| "make the conditions distinct so only one " ++
      "action can fire"
| .constraintFieldOverloaded .. =>
    some <| "move the logic into a single rule or a " ++
      "computed field"
| .wiringUnreferencedEntity entity =>
    some <| s!"add a screen with 'entity: {entity}' or " ++
      "remove the entity"
| .wiringFormMissingRequired _ _ field =>
    some s!"add '{field}' to the form's fields"
| .lintEntityName _ better =>
    some s!"rename to '{better}'"
| .lintScreenName _ better =>
    some s!"rename to '{better}'"
| .lintSensitiveFieldType .. =>
    some <| "store credentials as text and never expose " ++
      "them on screens"
| .lintLongFlow .. =>
    some <| s!"keep flows at {longFlowThreshold} steps " ++
      "or fewer"
| _ => none

end Matter

end Blueprint

------------------------------------------------------------
-- Findings
------------------------------------------------------------

namespace Blueprint

/- A matter, and how severe the check finds it. -/
structure Finding where
  severity : Severity
  matter : Matter
deriving DecidableEq, Repr

namespace Finding

variable (m : Matter)

def error : Finding :=
  ⟨.error, m⟩

def warning : Finding :=
  ⟨.warning, m⟩

def info : Finding :=
  ⟨.info, m⟩

variable (f : Finding)

def code : Code :=
  f.matter.code

def message : String :=
  f.matter.message

def suggestion? : Option String :=
  f.matter.suggestion?

@[simp] theorem severity_error : (error m).severity = .error :=
  rfl

@[simp] theorem severity_warning :
    (warning m).severity = .warning :=
  rfl

@[simp] theorem severity_info : (info m).severity = .info :=
  rfl

@[simp] theorem code_error : (error m).code = m.code :=
  rfl

@[simp] theorem code_warning : (warning m).code = m.code :=
  rfl

@[simp] theorem code_info : (info m).code = m.code :=
  rfl

end Finding

end Blueprint
