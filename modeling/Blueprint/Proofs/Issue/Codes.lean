import Blueprint.Issue
import Mathlib.Data.List.Nodup

/-
  The codes of issues. A code has an id of its own, so that
  lists of issues can be told apart by the codes that they
  report, and the findings with a code are to have the one
  severity that the table of codes gives it.

  Main definitions:
    * `Code.all`, `Code.severity`
    * `Finding.TellsOf`, `Issue.TellsOf`
    * `Reports`
    * `withoutCodes`

  Main statements:
    * `Code.id_injective`
    * `Reports.filter_eq_nil`
    * `Reports.withoutCodes_eq_self`
    * `Reports.withoutCodes_eq_nil`
-/

------------------------------------------------------------
-- Ids of Codes
------------------------------------------------------------

namespace Blueprint

namespace Code

/- All codes. -/
def all : List Code :=
  [.duplicateEntity, .duplicateField, .duplicateScreen,
   .duplicateFlow, .entityNoFields, .fieldInvalidType,
   .fieldEmptyEnum, .fieldMinExceedsMax,
   .fieldAiMissingPrompt, .fieldEmptyComputed,
   .fieldUnknownEntity, .screenInvalidKind,
   .screenUnknownEntity, .screenUnknownField,
   .screenWizardNoSteps, .screenDashboardNoWidgets,
   .screenInvalidWidgetKind, .flowNoSteps,
   .flowNonSequential, .flowAiStepEmpty,
   .flowAiWithoutIntegration, .ruleMissingDescription,
   .ruleEmpty, .ruleAiIncomplete, .ruleAiWithoutIntegration,
   .integrationDuplicate, .integrationInvalidEndpoint,
   .eventDuplicate, .eventNoFields, .typeListOnForm,
   .typeAiFieldOnForm, .typeUnknownRuleEntity,
   .typeUnknownRuleField, .constraintConflictingConditions,
   .constraintContradictoryActions,
   .constraintFieldOverloaded, .boundaryMoney,
   .boundaryTemporal, .boundaryAiDerived,
   .boundaryLargeEnum, .wiringUnreferencedEntity,
   .wiringFormMissingRequired, .wiringCircularRelationship,
   .lintEntityName, .lintScreenName, .lintFieldName,
   .lintFlowName, .lintUnusedEntity, .lintNoRequiredFields,
   .lintUnboundScreen, .lintRuleWithoutAction,
   .lintEmptyFlow, .lintSensitiveFieldType, .lintLongFlow]

theorem mem_all (c : Code) : c ∈ all := by
  cases c <;> decide

theorem nodup_map_id_all : (all.map id).Nodup := by
  decide +kernel

/- Every code has an id of its own. -/
theorem id_injective : Function.Injective id := by
  intro c d hSame
  exact List.inj_on_of_nodup_map nodup_map_id_all
    (mem_all c) (mem_all d) hSame

/-
  The table of severities. No check reads it: each gives its
  findings their severities itself.
-/
def severity : Code → Severity
| .duplicateEntity
| .duplicateField
| .duplicateScreen
| .duplicateFlow
| .fieldInvalidType
| .fieldEmptyEnum
| .fieldMinExceedsMax
| .fieldAiMissingPrompt
| .fieldEmptyComputed
| .fieldUnknownEntity
| .screenInvalidKind
| .screenUnknownEntity
| .screenUnknownField
| .screenWizardNoSteps
| .screenInvalidWidgetKind
| .flowAiStepEmpty
| .ruleMissingDescription
| .ruleEmpty
| .ruleAiIncomplete
| .integrationDuplicate
| .integrationInvalidEndpoint
| .eventDuplicate
| .typeUnknownRuleEntity => .error
| .entityNoFields
| .screenDashboardNoWidgets
| .flowNoSteps
| .flowNonSequential
| .flowAiWithoutIntegration
| .ruleAiWithoutIntegration
| .eventNoFields
| .typeListOnForm
| .typeUnknownRuleField
| .constraintConflictingConditions
| .constraintContradictoryActions
| .wiringFormMissingRequired => .warning
| .typeAiFieldOnForm
| .constraintFieldOverloaded
| .boundaryMoney
| .boundaryTemporal
| .boundaryAiDerived
| .boundaryLargeEnum
| .wiringUnreferencedEntity
| .wiringCircularRelationship
| .lintEntityName
| .lintScreenName
| .lintFieldName
| .lintFlowName
| .lintUnusedEntity
| .lintNoRequiredFields
| .lintUnboundScreen
| .lintRuleWithoutAction
| .lintEmptyFlow
| .lintSensitiveFieldType
| .lintLongFlow => .info

end Code

end Blueprint

------------------------------------------------------------
-- Reported Codes
------------------------------------------------------------

namespace Blueprint

/- The finding has one of the codes, and its severity. -/
def Finding.TellsOf
    (codes : List Code)
    (f : Finding) : Prop :=
  f.code ∈ codes ∧ f.severity = f.code.severity

namespace Finding

variable {codes : List Code}
variable {m : Matter}

@[simp] theorem tellsOf_error :
    (error m).TellsOf codes ↔
      m.code ∈ codes ∧ m.code.severity = .error := by
  simp [TellsOf, eq_comm]

@[simp] theorem tellsOf_warning :
    (warning m).TellsOf codes ↔
      m.code ∈ codes ∧ m.code.severity = .warning := by
  simp [TellsOf, eq_comm]

@[simp] theorem tellsOf_info :
    (info m).TellsOf codes ↔
      m.code ∈ codes ∧ m.code.severity = .info := by
  simp [TellsOf, eq_comm]

end Finding

/- The issue has the id and the severity of one of the codes. -/
def Issue.TellsOf
    (codes : List Code)
    (i : Issue) : Prop :=
  ∃ c ∈ codes, i.code = c.id ∧ i.severity = c.severity

/- All issues of a list have one of the codes. -/
def Reports
    (codes : List Code)
    (issues : List Issue) : Prop :=
  ∀ i ∈ issues, i.TellsOf codes

variable {α : Type}
variable {codes : List Code}

/- The issue of a finding tells of what the finding does. -/
@[simp] theorem Issue.tellsOf_of
    {finding : Finding}
    {location : Location} :
    (Issue.of finding location).TellsOf codes ↔
      finding.TellsOf codes := by
  constructor
  · rintro ⟨c, hMem, hId, hSeverity⟩
    have hSame : finding.code = c := Code.id_injective hId
    subst hSame
    exact ⟨hMem, hSeverity⟩
  · rintro ⟨hMem, hSeverity⟩
    exact ⟨finding.code, hMem, rfl, hSeverity⟩

namespace Finding.TellsOf

variable {finding : Finding}

theorem mono
    {more : List Code}
    (h : finding.TellsOf codes)
    (hMore : codes ⊆ more) :
    finding.TellsOf more :=
  ⟨hMore h.1, h.2⟩

theorem code_eq
    {code : Code}
    (h : finding.TellsOf [code]) :
    finding.code = code :=
  List.mem_singleton.mp h.1

/- Codes of one severity leave no choice. -/
theorem severity_eq
    {severity : Severity}
    (h : finding.TellsOf codes)
    (hCodes : ∀ c ∈ codes, c.severity = severity) :
    finding.severity = severity := by
  rw [h.2]
  exact hCodes finding.code h.1

end Finding.TellsOf

/- With more codes to choose from, issues have one of them. -/
theorem Reports.mono
    {more : List Code}
    {issues : List Issue}
    (h : Reports codes issues)
    (hMore : codes ⊆ more) :
    Reports more issues := by
  intro i hMem
  rcases h i hMem with ⟨c, hCode, hIssue⟩
  exact ⟨c, hMore hCode, hIssue⟩

/- No issue is of a code that is not among them. -/
theorem Reports.filter_eq_nil
    {issues : List Issue}
    {code : Code}
    {p : Issue → Bool}
    (h : Reports codes issues)
    (hCode : ∀ i, p i = true → i.code = code.id)
    (hOther : code ∉ codes) :
    issues.filter p = [] := by
  rw [List.filter_eq_nil_iff]
  intro i hMem hIssue
  rcases h i hMem with ⟨c, hKnown, hId, _⟩
  apply hOther
  rw [hCode i hIssue] at hId
  rwa [Code.id_injective hId]

@[simp] theorem reports_nil : Reports codes [] := by
  simp [Reports]

@[simp] theorem reports_cons_iff
    {i : Issue}
    {issues : List Issue} :
    Reports codes (i :: issues) ↔
      i.TellsOf codes ∧ Reports codes issues :=
  List.forall_mem_cons

@[simp] theorem reports_append_iff
    {first second : List Issue} :
    Reports codes (first ++ second) ↔
      Reports codes first ∧ Reports codes second :=
  List.forall_mem_append

@[simp] theorem reports_flatMap_iff
    {xs : List α}
    {f : α → List Issue} :
    Reports codes (xs.flatMap f) ↔
      ∀ x ∈ xs, Reports codes (f x) :=
  List.forall_mem_flatMap

@[simp] theorem reports_map_iff
    {xs : List α}
    {f : α → Issue} :
    Reports codes (xs.map f) ↔
      ∀ x ∈ xs, (f x).TellsOf codes :=
  List.forall_mem_map

@[simp] theorem reports_filterMap_iff
    {xs : List α}
    {f : α → Option Issue} :
    Reports codes (xs.filterMap f) ↔
      ∀ x ∈ xs, ∀ i, f x = some i → i.TellsOf codes := by
  constructor
  · intro h x hMem i hSome
    exact h i (List.mem_filterMap.mpr ⟨x, hMem, hSome⟩)
  · intro h i hMem
    rcases List.mem_filterMap.mp hMem with ⟨x, hX, hSome⟩
    exact h x hX i hSome

end Blueprint

------------------------------------------------------------
-- Issues without Codes
------------------------------------------------------------

namespace Blueprint

/- The issues of a list that have none of the codes. -/
def withoutCodes
    (codes : List Code)
    (issues : List Issue) : List Issue :=
  issues.filter fun i => !(codes.map Code.id).contains i.code

variable {codes others : List Code}
variable {issues : List Issue}

theorem withoutCodes_append
    (first second : List Issue) :
    withoutCodes codes (first ++ second) =
      withoutCodes codes first ++ withoutCodes codes second :=
  List.filter_append ..

theorem withoutCodes_flatMap
    {α : Type}
    (xs : List α)
    (f : α → List Issue) :
    withoutCodes codes (xs.flatMap f) =
      xs.flatMap fun x => withoutCodes codes (f x) :=
  List.filter_flatMap ..

/- Issues of other codes stay. -/
theorem Reports.withoutCodes_eq_self
    (h : Reports codes issues)
    (hOther : ∀ c ∈ codes, c ∉ others) :
    withoutCodes others issues = issues := by
  unfold withoutCodes
  rw [List.filter_eq_self]
  intro i hMem
  rcases h i hMem with ⟨c, hCode, hId, _⟩
  rw [hId]
  simpa [Code.id_injective.eq_iff] using hOther c hCode

/- Issues of the codes go. -/
theorem Reports.withoutCodes_eq_nil
    (h : Reports codes issues)
    (hGone : ∀ c ∈ codes, c ∈ others) :
    withoutCodes others issues = [] := by
  unfold withoutCodes
  rw [List.filter_eq_nil_iff]
  intro i hMem
  rcases h i hMem with ⟨c, hCode, hId, _⟩
  rw [hId]
  simpa [Code.id_injective.eq_iff] using hGone c hCode

end Blueprint
