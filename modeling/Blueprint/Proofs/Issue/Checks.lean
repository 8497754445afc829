import Blueprint.Proofs.Issue.Codes
import Blueprint.Verify

/-
  The codes that each check reports. An issue with the id of
  a code comes from the check that the code belongs to.

  Main statements:
    * `reports_duplicateIssues`
    * `reports_entityIssues`, `reports_screenIssues`,
      `reports_flowIssues`, `reports_ruleIssues`,
      `reports_integrationIssues`, `reports_eventIssues`
    * `reports_typingIssues`
    * `reports_conflictIssues`
    * `reports_boundaryIssues`
    * `reports_wiringIssues`
    * `reports_styleIssues`
    * `reports_issues`
-/

------------------------------------------------------------
-- Names Declared Twice
------------------------------------------------------------

namespace Blueprint

variable {α : Type}

/- Repeated names are reported with the code for them. -/
theorem reports_repeatIssues
    (name : α → String)
    (location : α → Location)
    {matter : String → Nat → Matter}
    (declarations : List α)
    {codes : List Code}
    (hCode : ∀ n line, (matter n line).code ∈ codes)
    (hError : ∀ c ∈ codes, c.severity = .error) :
    Reports codes
      (repeatIssues name location matter declarations) := by
  unfold repeatIssues
  rw [reports_flatMap_iff]
  rintro ⟨d, first⟩ _
  cases first with
  | none => exact reports_nil
  | some f => simp [hCode, hError]

/- The codes of names declared twice. -/
def Code.duplicates : List Code :=
  [.duplicateEntity, .duplicateField, .duplicateScreen,
   .duplicateFlow]

theorem reports_duplicateIssues (spec : Spec) :
    Reports Code.duplicates (duplicateIssues spec) := by
  have hFields : ∀ e : Entity,
      Reports Code.duplicates (duplicateFieldIssues e) := by
    intro e
    apply reports_repeatIssues
    · simp [Matter.code, Code.duplicates]
    · decide
  have hEntities : Reports Code.duplicates
      (duplicateEntityIssues spec.entities) := by
    unfold duplicateEntityIssues
    rw [reports_flatMap_iff]
    rintro ⟨e, first⟩ _
    rw [reports_append_iff, and_iff_right (hFields e)]
    cases first with
    | none => exact reports_nil
    | some f =>
        simp [Matter.code, Code.severity, Code.duplicates]
  unfold duplicateIssues
  rw [reports_append_iff, reports_append_iff]
  refine ⟨⟨hEntities, ?_⟩, ?_⟩
  · apply reports_repeatIssues
    · simp [Matter.code, Code.duplicates]
    · decide
  · apply reports_repeatIssues
    · simp [Matter.code, Code.duplicates]
    · decide

end Blueprint

------------------------------------------------------------
-- Structure
------------------------------------------------------------

namespace Blueprint

/- The codes of findings about the type of a field. -/
def Code.types : List Code :=
  [.fieldInvalidType, .fieldEmptyEnum,
   .fieldAiMissingPrompt, .fieldEmptyComputed,
   .fieldUnknownEntity]

theorem tellsOf_of_typeFinding?
    {table : SymbolTable}
    {entity : String}
    {f : Field}
    {finding : Finding}
    (h : typeFinding? table entity f = some finding) :
    finding.TellsOf Code.types := by
  unfold typeFinding? at h
  cases hType : f.type with
  | scalar s => simp [hType] at h
  | unrecognized raw =>
      simp only [hType, Option.some.injEq] at h
      subst h
      simp [Matter.code, Code.severity, Code.types]
  | enum _ | ai _ | computed _ =>
      simp only [hType] at h
      split at h
      · cases h
        simp [Matter.code, Code.severity, Code.types]
      · cases h
  | relationship _ | list _ =>
      simp only [hType] at h
      split at h
      · cases h
      · cases h
        simp [Matter.code, Code.severity, Code.types]

theorem tellsOf_of_boundFinding?
    {entity : String}
    {f : Field}
    {finding : Finding}
    (h : boundFinding? entity f = some finding) :
    finding.TellsOf [.fieldMinExceedsMax] := by
  unfold boundFinding? at h
  split at h
  · split at h
    · cases h
      simp [Matter.code, Code.severity]
    · cases h
  · cases h

/- The codes of findings about fields. -/
def Code.fields : List Code :=
  .fieldMinExceedsMax :: Code.types

theorem reports_fieldIssues
    (table : SymbolTable)
    (entity : String)
    (f : Field) :
    Reports Code.fields (fieldIssues table entity f) := by
  unfold fieldIssues
  rw [reports_map_iff]
  intro finding hMem
  rw [Issue.tellsOf_of]
  rcases List.mem_append.mp hMem with hType | hBound
  · apply (tellsOf_of_typeFinding?
      (Option.mem_toList.mp hType)).mono
    exact List.subset_cons_self _ _
  · apply (tellsOf_of_boundFinding?
      (Option.mem_toList.mp hBound)).mono
    decide

/- The codes of findings about entities and their fields. -/
def Code.entities : List Code :=
  .entityNoFields :: Code.fields

theorem reports_entityIssues
    (table : SymbolTable)
    (e : Entity) :
    Reports Code.entities (entityIssues table e) := by
  unfold entityIssues
  rw [reports_append_iff, reports_flatMap_iff]
  constructor
  · split
    · simp [Matter.code, Code.severity, Code.entities]
    · exact reports_nil
  · intro f _
    apply (reports_fieldIssues table e.name f).mono
    decide

/- The codes of findings about screens. -/
def Code.screens : List Code :=
  [.screenInvalidKind, .screenUnknownEntity,
   .screenUnknownField, .screenWizardNoSteps,
   .screenDashboardNoWidgets, .screenInvalidWidgetKind]

theorem reports_bindingIssues
    (table : SymbolTable)
    (s : Screen) :
    Reports [.screenUnknownEntity, .screenUnknownField]
      (bindingIssues table s) := by
  unfold bindingIssues
  split
  · exact reports_nil
  · split
    · rw [reports_filterMap_iff]
      rintro ⟨field, location⟩ _ i hIssue
      dsimp only at hIssue
      split at hIssue
      · cases hIssue
      · cases hIssue
        simp [Matter.code, Code.severity]
    · simp [Matter.code, Code.severity]

theorem tellsOf_of_contentFinding?
    {s : Screen}
    {finding : Finding}
    (h : contentFinding? s = some finding) :
    finding.TellsOf
      [.screenWizardNoSteps, .screenDashboardNoWidgets] := by
  unfold contentFinding? at h
  split at h
  · split at h
    · cases h
      simp [Matter.code, Code.severity]
    · cases h
  · split at h
    · cases h
      simp [Matter.code, Code.severity]
    · cases h
  · cases h

theorem reports_screenIssues
    (table : SymbolTable)
    (s : Screen) :
    Reports Code.screens (screenIssues table s) := by
  unfold screenIssues
  rw [reports_append_iff, reports_append_iff,
    reports_append_iff, reports_map_iff, reports_map_iff,
    reports_filterMap_iff]
  refine ⟨⟨⟨?kind, ?binding⟩, ?content⟩, ?widgets⟩
  case kind =>
      intro finding hMem
      have hKind := Option.mem_toList.mp hMem
      unfold kindFinding? at hKind
      split at hKind
      · cases hKind
        simp [Matter.code, Code.severity, Code.screens]
      · cases hKind
  case binding =>
      apply (reports_bindingIssues table s).mono
      decide
  case content =>
      intro finding hMem
      rw [Issue.tellsOf_of]
      apply (tellsOf_of_contentFinding?
        (Option.mem_toList.mp hMem)).mono
      decide
  case widgets =>
      intro w _ i hIssue
      unfold widgetIssue? at hIssue
      split at hIssue
      · cases hIssue
        simp [Matter.code, Code.severity, Code.screens]
      · cases hIssue

/-
  The codes of findings about flows. One of them is found
  only if no integration answers.
-/
def Code.flows (hasAi : Bool) : List Code :=
  [.flowNoSteps, .flowNonSequential, .flowAiStepEmpty] ++
    if hasAi then [] else [.flowAiWithoutIntegration]

/- Steps out of sequence have a code of their own. -/
theorem reports_sequenceIssue? (f : Flow) :
    Reports [.flowNonSequential]
      (sequenceIssue? f).toList := by
  unfold sequenceIssue?
  cases firstMisnumbered? 1 f.steps with
  | none => exact reports_nil
  | some p => simp [Matter.code, Code.severity]

/- So have AI steps that do not say what to do. -/
theorem reports_emptySteps (f : Flow) :
    Reports [.flowAiStepEmpty]
      ((f.steps.filter isEmptyAiStep).map fun step =>
        .of (.error (.flowAiStepEmpty step.order f.name))
          step.location) := by
  rw [reports_map_iff]
  intro step _
  simp [Matter.code, Code.severity]

/- So have AI steps that no integration can carry out. -/
theorem reports_unservedIssue?
    (hasAi : Bool)
    (f : Flow) :
    Reports [.flowAiWithoutIntegration]
      (unservedIssue? hasAi f).toList := by
  unfold unservedIssue?
  split
  · exact reports_nil
  · cases f.steps.find? (·.ai) with
    | none => exact reports_nil
    | some step => simp [Matter.code, Code.severity]

theorem reports_flowIssues
    (hasAi : Bool)
    (f : Flow) :
    Reports (Code.flows hasAi) (flowIssues hasAi f) := by
  unfold flowIssues
  split
  · simp [Matter.code, Code.severity, Code.flows]
  · rw [reports_append_iff, reports_append_iff]
    refine ⟨⟨?sequence, ?empty⟩, ?unserved⟩
    case sequence =>
        apply (reports_sequenceIssue? f).mono
        simp [Code.flows]
    case empty =>
        apply (reports_emptySteps f).mono
        simp [Code.flows]
    case unserved =>
        cases hasAi with
        | true => exact reports_nil
        | false =>
            apply (reports_unservedIssue? false f).mono
            decide

/-
  The codes of findings about rules. One of them is found
  only if no integration answers.
-/
def Code.rules (hasAi : Bool) : List Code :=
  [.ruleMissingDescription, .ruleEmpty, .ruleAiIncomplete] ++
    if hasAi then [] else [.ruleAiWithoutIntegration]

theorem tellsOf_of_mem_aiFindings
    {hasAi : Bool}
    {rule : String}
    {call : AiCall}
    {finding : Finding}
    (h : finding ∈ aiFindings hasAi rule call) :
    finding.TellsOf (Code.rules hasAi) := by
  simp only [aiFindings, List.mem_append,
    List.mem_ite_nil_left, List.mem_singleton] at h
  rcases h with ⟨_, rfl⟩ | ⟨hNone, rfl⟩
  · simp [Matter.code, Code.severity, Code.rules]
  · simp [Matter.code, Code.severity, Code.rules, hNone]

theorem reports_ruleIssues
    (hasAi : Bool)
    (r : Rule) :
    Reports (Code.rules hasAi) (ruleIssues hasAi r) := by
  unfold ruleIssues
  rw [reports_map_iff]
  intro finding hMem
  rw [Issue.tellsOf_of]
  simp only [ruleFindings, List.mem_append,
    List.mem_ite_nil_right, List.mem_singleton] at hMem
  rcases hMem with (⟨_, rfl⟩ | ⟨_, rfl⟩) | hCall
  · simp [Matter.code, Code.severity, Code.rules]
  · simp [Matter.code, Code.severity, Code.rules]
  · split at hCall
    · cases hCall
    · exact tellsOf_of_mem_aiFindings hCall

/- The codes of findings about integrations. -/
def Code.integrations : List Code :=
  [.integrationDuplicate, .integrationInvalidEndpoint]

theorem reports_integrationIssues
    (integrations : List Integration) :
    Reports Code.integrations
      (integrationIssues integrations) := by
  unfold integrationIssues
  rw [reports_flatMap_iff]
  rintro ⟨i, first⟩ _
  dsimp only
  rw [List.map_append, reports_append_iff]
  constructor
  · cases first with
    | none => exact reports_nil
    | some f =>
        simp [Matter.code, Code.severity, Code.integrations]
  · unfold endpointFinding?
    split
    · exact reports_nil
    · split
      · exact reports_nil
      · simp [Matter.code, Code.severity, Code.integrations]

/- The codes of findings about events. -/
def Code.events : List Code :=
  [.eventDuplicate, .eventNoFields]

theorem reports_eventIssues (events : List Event) :
    Reports Code.events (eventIssues events) := by
  unfold eventIssues
  rw [reports_flatMap_iff]
  rintro ⟨e, first⟩ _
  dsimp only
  rw [List.map_append, reports_append_iff]
  constructor
  · cases first with
    | none => exact reports_nil
    | some f => simp [Matter.code, Code.severity, Code.events]
  · split
    · simp [Matter.code, Code.severity, Code.events]
    · exact reports_nil

end Blueprint

------------------------------------------------------------
-- Typing and Conflicts
------------------------------------------------------------

namespace Blueprint

/- The codes of findings about forms and AI inputs. -/
def Code.typing : List Code :=
  [.typeListOnForm, .typeAiFieldOnForm,
   .typeUnknownRuleEntity, .typeUnknownRuleField]

theorem tellsOf_of_formFieldFinding?
    {screen entity field : String}
    {tags : List (String × TypeTag)}
    {finding : Finding}
    (h : formFieldFinding? screen entity field tags =
      some finding) :
    finding.TellsOf [.typeListOnForm, .typeAiFieldOnForm] := by
  unfold formFieldFinding? at h
  split at h
  · cases h
    simp [Matter.code, Code.severity]
  · cases h
    simp [Matter.code, Code.severity]
  · cases h

theorem reports_formIssues
    (env : TypeEnv)
    (s : Screen) :
    Reports [.typeListOnForm, .typeAiFieldOnForm]
      (formIssues env s) := by
  unfold formIssues
  split
  · split
    · exact reports_nil
    · rw [reports_filterMap_iff]
      intro field _ i hIssue
      rcases Option.map_eq_some_iff.mp hIssue with
        ⟨finding, hFinding, rfl⟩
      rw [Issue.tellsOf_of]
      exact tellsOf_of_formFieldFinding? hFinding
  · exact reports_nil

/- The codes of findings about inputs of rules. -/
def Code.inputs : List Code :=
  [.typeUnknownRuleEntity, .typeUnknownRuleField]

theorem tellsOf_of_referenceFinding?
    {env : TypeEnv}
    {rule input : String}
    {reference : Reference}
    {finding : Finding}
    (h : referenceFinding? env rule input reference =
      some finding) :
    finding.TellsOf Code.inputs := by
  unfold referenceFinding? at h
  split at h
  · cases h
  · split at h
    · cases h
      simp [Matter.code, Code.severity,
        Code.inputs]
    · split at h
      · cases h
      · split at h
        · cases h
        · cases h
          simp [Matter.code, Code.severity,
            Code.inputs]

theorem reports_inputIssues
    (env : TypeEnv)
    (rules : List Rule) :
    Reports Code.inputs
      (rules.filterMap (inputIssue? env)) := by
  rw [reports_filterMap_iff]
  intro r _ i hIssue
  unfold inputIssue? at hIssue
  split at hIssue
  · cases hIssue
  · split at hIssue
    · rcases Option.map_eq_some_iff.mp hIssue with
        ⟨finding, hFinding, rfl⟩
      rw [Issue.tellsOf_of]
      exact tellsOf_of_referenceFinding? hFinding
    · cases hIssue

theorem reports_typingIssues
    (spec : Spec)
    (env : TypeEnv) :
    Reports Code.typing (typingIssues spec env) := by
  unfold typingIssues
  rw [reports_append_iff, reports_flatMap_iff]
  constructor
  · intro s _
    apply (reports_formIssues env s).mono
    decide
  · apply (reports_inputIssues env spec.rules).mono
    decide

/- The codes of findings about two rules. -/
def Code.clashes : List Code :=
  [.constraintConflictingConditions,
   .constraintContradictoryActions]

/- The finding about two demands tells of their kind. -/
theorem tellsOf_of_conflictFinding?
    {first second : String}
    {a b : Constraint}
    {finding : Finding}
    (h : conflictFinding? first second a b = some finding) :
    a.kind = .fieldValue ∧
        finding.TellsOf [.constraintConflictingConditions] ∨
      a.kind = .actionTrigger ∧
        finding.TellsOf [.constraintContradictoryActions] := by
  unfold conflictFinding? at h
  split at h
  · rename_i hKind _
    rcases Option.bind_eq_some_iff.mp h with ⟨_, _, hMap⟩
    rcases Option.map_eq_some_iff.mp hMap with ⟨_, _, rfl⟩
    refine .inl ⟨hKind, ?_⟩
    simp [Matter.code, Code.severity]
  · rename_i hKind _
    rcases Option.bind_eq_some_iff.mp h with ⟨_, _, hMap⟩
    rcases Option.map_eq_some_iff.mp hMap with ⟨_, _, rfl⟩
    refine .inr ⟨hKind, ?_⟩
    simp [Matter.code, Code.severity]
  · cases h

theorem tellsOf_of_pairIssue?
    {rules : List Rule}
    {a b : Constraint}
    {i : Issue}
    (h : pairIssue? rules a b = some i) :
    i.TellsOf Code.clashes := by
  unfold pairIssue? at h
  split at h
  · cases h
  · split at h
    · rcases Option.map_eq_some_iff.mp h with
        ⟨finding, hFinding, rfl⟩
      rw [Issue.tellsOf_of]
      rcases tellsOf_of_conflictFinding? hFinding with
        ⟨_, hTells⟩ | ⟨_, hTells⟩
      · exact hTells.mono (by decide)
      · exact hTells.mono (by decide)
    · cases h

/- All pairs of constraints are compared one by one. -/
theorem reports_pairIssues
    (rules : List Rule)
    (cs : List Constraint) :
    Reports Code.clashes (pairIssues rules cs) := by
  induction cs with
  | nil => exact reports_nil
  | cons a rest ih =>
      unfold pairIssues
      rw [reports_append_iff, reports_filterMap_iff]
      refine ⟨?_, ih⟩
      intro b _ i hIssue
      exact tellsOf_of_pairIssue? hIssue

theorem reports_overloadIssues
    (rules : List Rule)
    (cs : List Constraint) :
    Reports [.constraintFieldOverloaded]
      (overloadIssues rules cs) := by
  unfold overloadIssues
  rw [reports_filterMap_iff]
  intro target _ i hIssue
  simp only [overloadIssue?] at hIssue
  split at hIssue
  · rcases Option.bind_eq_some_iff.mp hIssue with
      ⟨_, _, hMap⟩
    rcases Option.map_eq_some_iff.mp hMap with ⟨_, _, rfl⟩
    simp [Matter.code, Code.severity]
  · cases hIssue

/- The codes of findings about constraints. -/
def Code.conflicts : List Code :=
  .constraintFieldOverloaded :: Code.clashes

theorem reports_conflictIssues
    (spec : Spec)
    (env : TypeEnv) :
    Reports Code.conflicts (conflictIssues spec env) := by
  unfold conflictIssues
  rw [reports_append_iff]
  constructor
  · apply (reports_pairIssues _ _).mono
    decide
  · apply (reports_overloadIssues _ _).mono
    decide

end Blueprint

------------------------------------------------------------
-- Boundaries, Wiring and Style
------------------------------------------------------------

namespace Blueprint

/- The codes of notes on boundaries. -/
def Code.boundaries : List Code :=
  [.boundaryMoney, .boundaryTemporal, .boundaryAiDerived,
   .boundaryLargeEnum]

theorem tellsOf_of_boundaryFinding?
    {entity : String}
    {f : Field}
    {finding : Finding}
    (h : boundaryFinding? entity f = some finding) :
    finding.TellsOf Code.boundaries := by
  unfold boundaryFinding? at h
  split at h
  case h_5 =>
      split at h
      · cases h
        simp [Matter.code, Code.severity, Code.boundaries]
      · cases h
  case h_6 => cases h
  all_goals
    cases h
    simp [Matter.code, Code.severity, Code.boundaries]

theorem reports_boundaryIssues (spec : Spec) :
    Reports Code.boundaries (boundaryIssues spec) := by
  unfold boundaryIssues
  rw [reports_flatMap_iff]
  intro e _
  rw [reports_filterMap_iff]
  intro f _ i hIssue
  rcases Option.map_eq_some_iff.mp hIssue with
    ⟨finding, hFinding, rfl⟩
  rw [Issue.tellsOf_of]
  exact tellsOf_of_boundaryFinding? hFinding

/- The codes of findings about the wiring. -/
def Code.wiring : List Code :=
  [.wiringUnreferencedEntity, .wiringFormMissingRequired,
   .wiringCircularRelationship]

theorem reports_unreferencedIssues (spec : Spec) :
    Reports [.wiringUnreferencedEntity]
      (unreferencedIssues spec) := by
  unfold unreferencedIssues
  rw [reports_filterMap_iff]
  intro e _ i hIssue
  split at hIssue
  · cases hIssue
  · cases hIssue
    simp [Matter.code, Code.severity]

theorem reports_requiredIssues
    (spec : Spec)
    (s : Screen) :
    Reports [.wiringFormMissingRequired]
      (requiredIssues spec s) := by
  unfold requiredIssues
  rw [reports_filterMap_iff]
  rintro ⟨e, f⟩ _ i hIssue
  dsimp only at hIssue
  by_cases hListed : s.fields.contains f.name = true
  · rw [if_pos hListed] at hIssue
    cases hIssue
  · rw [if_neg hListed, Option.some.injEq] at hIssue
    subst hIssue
    simp [Matter.code, Code.severity]

theorem reports_circularIssues (spec : Spec) :
    Reports [.wiringCircularRelationship]
      (circularIssues spec) := by
  unfold circularIssues
  rw [reports_map_iff]
  intro r _
  simp [Matter.code, Code.severity]

theorem reports_wiringIssues (spec : Spec) :
    Reports Code.wiring (wiringIssues spec) := by
  unfold wiringIssues
  rw [reports_append_iff, reports_append_iff,
    reports_flatMap_iff]
  refine ⟨⟨?unreferenced, ?required⟩, ?circular⟩
  case unreferenced =>
      apply (reports_unreferencedIssues spec).mono
      decide
  case required =>
      intro s _
      apply (reports_requiredIssues spec s).mono
      decide
  case circular =>
      apply (reports_circularIssues spec).mono
      decide

/- The codes of findings about style. -/
def Code.style : List Code :=
  [.lintEntityName, .lintScreenName, .lintFieldName,
   .lintFlowName, .lintUnusedEntity, .lintNoRequiredFields,
   .lintUnboundScreen, .lintRuleWithoutAction,
   .lintEmptyFlow, .lintSensitiveFieldType, .lintLongFlow]

/- What is found about an entity itself. -/
theorem tellsOf_of_mem_entityStyle
    {shown : List String}
    {e : Entity}
    {finding : Finding}
    (h : finding ∈ entityStyle shown e) :
    finding.TellsOf [.lintEntityName, .lintUnusedEntity,
      .lintNoRequiredFields] := by
  simp only [entityStyle, List.mem_append,
    List.mem_ite_nil_left, List.mem_singleton] at h
  rcases h with (⟨_, rfl⟩ | ⟨_, rfl⟩) | ⟨_, rfl⟩
  all_goals simp [Matter.code, Code.severity]

theorem tellsOf_of_mem_fieldStyle
    {entity : String}
    {f : Field}
    {finding : Finding}
    (h : finding ∈ fieldStyle entity f) :
    finding.TellsOf
      [.lintFieldName, .lintSensitiveFieldType] := by
  simp only [fieldStyle, List.mem_append,
    List.mem_ite_nil_left, List.mem_ite_nil_right,
    List.mem_singleton] at h
  rcases h with ⟨_, rfl⟩ | ⟨_, rfl⟩
  all_goals simp [Matter.code, Code.severity]

theorem tellsOf_of_mem_screenStyle
    {s : Screen}
    {finding : Finding}
    (h : finding ∈ screenStyle s) :
    finding.TellsOf [.lintScreenName, .lintUnboundScreen] := by
  simp only [screenStyle, List.mem_append,
    List.mem_ite_nil_left, List.mem_ite_nil_right,
    List.mem_singleton] at h
  rcases h with ⟨_, rfl⟩ | ⟨_, rfl⟩
  all_goals simp [Matter.code, Code.severity]

theorem tellsOf_of_mem_flowStyle
    {f : Flow}
    {finding : Finding}
    (h : finding ∈ flowStyle f) :
    finding.TellsOf
      [.lintFlowName, .lintEmptyFlow, .lintLongFlow] := by
  unfold flowStyle at h
  rcases List.mem_append.mp h with hName | hSteps
  · rw [List.mem_ite_nil_right, List.mem_singleton] at hName
    rcases hName with ⟨_, rfl⟩
    simp [Matter.code, Code.severity]
  · split at hSteps
    · rw [List.mem_singleton] at hSteps
      subst hSteps
      simp [Matter.code, Code.severity]
    · rw [List.mem_ite_nil_right, List.mem_singleton]
        at hSteps
      rcases hSteps with ⟨_, rfl⟩
      simp [Matter.code, Code.severity]

theorem tellsOf_of_mem_ruleStyle
    {r : Rule}
    {finding : Finding}
    (h : finding ∈ ruleStyle r) :
    finding.TellsOf [.lintRuleWithoutAction] := by
  rw [ruleStyle, List.mem_ite_nil_right,
    List.mem_singleton] at h
  rcases h with ⟨_, rfl⟩
  simp [Matter.code, Code.severity]

theorem reports_entityStyleIssues
    (shown : List String)
    (e : Entity) :
    Reports Code.style (entityStyleIssues shown e) := by
  unfold entityStyleIssues
  simp only [reports_append_iff, reports_map_iff,
    reports_flatMap_iff, Issue.tellsOf_of]
  constructor
  · intro finding hMem
    apply (tellsOf_of_mem_entityStyle hMem).mono
    decide
  · intro f _ finding hMem
    apply (tellsOf_of_mem_fieldStyle hMem).mono
    decide

theorem reports_styleIssues (spec : Spec) :
    Reports Code.style (styleIssues spec) := by
  unfold styleIssues
  simp only [reports_append_iff, reports_flatMap_iff,
    reports_map_iff, Issue.tellsOf_of]
  refine ⟨⟨⟨?entities, ?screens⟩, ?flows⟩, ?rules⟩
  case entities =>
      intro e _
      exact reports_entityStyleIssues _ e
  case screens =>
      intro s _ finding hMem
      apply (tellsOf_of_mem_screenStyle hMem).mono
      decide
  case flows =>
      intro f _ finding hMem
      apply (tellsOf_of_mem_flowStyle hMem).mono
      decide
  case rules =>
      intro r _ finding hMem
      apply (tellsOf_of_mem_ruleStyle hMem).mono
      decide

end Blueprint

------------------------------------------------------------
-- All Checks
------------------------------------------------------------

namespace Blueprint

/- Every issue has a code and is as severe as the code says. -/
theorem reports_issues (spec : Spec) :
    Reports Code.all spec.issues := by
  have hAll : ∀ {codes : List Code} {issues : List Issue},
      Reports codes issues → Reports Code.all issues := by
    intro codes issues h
    exact h.mono fun c _ => Code.mem_all c
  let table := SymbolTable.ofSpec spec
  let env := TypeEnv.ofSpec spec
  have hStructure :
      Reports Code.all (structureIssues spec table) := by
    unfold structureIssues
    simp only [reports_append_iff, reports_flatMap_iff]
    refine ⟨⟨⟨⟨⟨?_, ?_⟩, ?_⟩, ?_⟩, ?_⟩, ?_⟩
    · exact fun e _ => hAll (reports_entityIssues table e)
    · exact fun s _ => hAll (reports_screenIssues table s)
    · exact fun f _ => hAll (reports_flowIssues _ f)
    · exact fun r _ => hAll (reports_ruleIssues _ r)
    · exact hAll (reports_integrationIssues _)
    · exact hAll (reports_eventIssues _)
  unfold Spec.issues
  simp only [reports_append_iff]
  exact ⟨⟨⟨⟨⟨⟨hAll (reports_duplicateIssues spec),
    hStructure⟩, hAll (reports_typingIssues spec env)⟩,
    hAll (reports_conflictIssues spec env)⟩,
    hAll (reports_boundaryIssues spec)⟩,
    hAll (reports_wiringIssues spec)⟩,
    hAll (reports_styleIssues spec)⟩

end Blueprint
