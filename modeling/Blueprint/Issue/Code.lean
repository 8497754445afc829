/-
  The codes and the severities of issues. A code is a stable
  name for a kind of finding, scoped by the part of the
  checks it belongs to.

  Main definitions:
    * `Severity`, `Severity.word`
    * `Code`
    * `Code.id`
-/

------------------------------------------------------------
-- Severities
------------------------------------------------------------

namespace Blueprint

/- How much an issue weighs. Only errors fail a document. -/
inductive Severity where
| error
| warning
| info
deriving DecidableEq, Repr

namespace Severity

/- The word that a severity is written with. -/
def word : Severity → String
| .error => "error"
| .warning => "warning"
| .info => "info"

def ofWord? : String → Option Severity
| "error" => some .error
| "warning" => some .warning
| "info" => some .info
| _ => none

end Severity

end Blueprint

------------------------------------------------------------
-- Codes
------------------------------------------------------------

namespace Blueprint

/- The kinds of findings. -/
inductive Code where
| duplicateEntity
| duplicateField
| duplicateScreen
| duplicateFlow
| entityNoFields
| fieldInvalidType
| fieldEmptyEnum
| fieldMinExceedsMax
| fieldAiMissingPrompt
| fieldEmptyComputed
| fieldUnknownEntity
| screenInvalidKind
| screenUnknownEntity
| screenUnknownField
| screenWizardNoSteps
| screenDashboardNoWidgets
| screenInvalidWidgetKind
| flowNoSteps
| flowNonSequential
| flowAiStepEmpty
| flowAiWithoutIntegration
| ruleMissingDescription
| ruleEmpty
| ruleAiIncomplete
| ruleAiWithoutIntegration
| integrationDuplicate
| integrationInvalidEndpoint
| eventDuplicate
| eventNoFields
| typeListOnForm
| typeAiFieldOnForm
| typeUnknownRuleEntity
| typeUnknownRuleField
| constraintConflictingConditions
| constraintContradictoryActions
| constraintFieldOverloaded
| boundaryMoney
| boundaryTemporal
| boundaryAiDerived
| boundaryLargeEnum
| wiringUnreferencedEntity
| wiringFormMissingRequired
| wiringCircularRelationship
| lintEntityName
| lintScreenName
| lintFieldName
| lintFlowName
| lintUnusedEntity
| lintNoRequiredFields
| lintUnboundScreen
| lintRuleWithoutAction
| lintEmptyFlow
| lintSensitiveFieldType
| lintLongFlow
deriving DecidableEq, Repr

namespace Code

/- The stable name of a code. -/
def id : Code → String
| .duplicateEntity => "sym.duplicate-entity"
| .duplicateField => "sym.duplicate-field"
| .duplicateScreen => "sym.duplicate-screen"
| .duplicateFlow => "sym.duplicate-flow"
| .entityNoFields => "entity.no-fields"
| .fieldInvalidType => "field.invalid-type"
| .fieldEmptyEnum => "field.empty-enum"
| .fieldMinExceedsMax => "field.min-exceeds-max"
| .fieldAiMissingPrompt => "field.ai-missing-prompt"
| .fieldEmptyComputed => "field.empty-computed"
| .fieldUnknownEntity => "field.unknown-entity"
| .screenInvalidKind => "screen.invalid-kind"
| .screenUnknownEntity => "screen.unknown-entity"
| .screenUnknownField => "screen.unknown-field"
| .screenWizardNoSteps => "screen.wizard-no-steps"
| .screenDashboardNoWidgets => "screen.dashboard-no-widgets"
| .screenInvalidWidgetKind => "screen.invalid-widget-kind"
| .flowNoSteps => "flow.no-steps"
| .flowNonSequential => "flow.non-sequential-steps"
| .flowAiStepEmpty => "flow.ai-step-empty"
| .flowAiWithoutIntegration => "flow.ai-without-integration"
| .ruleMissingDescription => "rule.missing-description"
| .ruleEmpty => "rule.empty"
| .ruleAiIncomplete => "rule.ai-incomplete"
| .ruleAiWithoutIntegration => "rule.ai-without-integration"
| .integrationDuplicate => "integration.duplicate"
| .integrationInvalidEndpoint =>
    "integration.invalid-endpoint"
| .eventDuplicate => "event.duplicate"
| .eventNoFields => "event.no-fields"
| .typeListOnForm => "type.list-on-form"
| .typeAiFieldOnForm => "type.ai-field-on-form"
| .typeUnknownRuleEntity => "type.unknown-rule-entity"
| .typeUnknownRuleField => "type.unknown-rule-field"
| .constraintConflictingConditions =>
    "constraint.conflicting-conditions"
| .constraintContradictoryActions =>
    "constraint.contradictory-actions"
| .constraintFieldOverloaded => "constraint.field-overloaded"
| .boundaryMoney => "boundary.money"
| .boundaryTemporal => "boundary.temporal"
| .boundaryAiDerived => "boundary.ai-derived"
| .boundaryLargeEnum => "boundary.large-enum"
| .wiringUnreferencedEntity => "wiring.unreferenced-entity"
| .wiringFormMissingRequired =>
    "wiring.form-missing-required"
| .wiringCircularRelationship =>
    "wiring.circular-relationship"
| .lintEntityName => "lint.entity-name"
| .lintScreenName => "lint.screen-name"
| .lintFieldName => "lint.field-name"
| .lintFlowName => "lint.flow-name"
| .lintUnusedEntity => "lint.unused-entity"
| .lintNoRequiredFields => "lint.no-required-fields"
| .lintUnboundScreen => "lint.unbound-screen"
| .lintRuleWithoutAction => "lint.rule-without-action"
| .lintEmptyFlow => "lint.empty-flow"
| .lintSensitiveFieldType => "lint.sensitive-field-type"
| .lintLongFlow => "lint.long-flow"

end Code

end Blueprint
