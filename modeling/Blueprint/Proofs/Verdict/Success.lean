import Blueprint.Proofs.Text.Cut
import Blueprint.Proofs.Verdict.Structure

/-
  A specification is verified with success exactly when it
  is well-formed: what the checks of structure leave over,
  and all checks together.

  Main statements:
    * `errorFree_inputIssue?_iff`
    * `errorFree_issues_iff`
    * `success_verify_iff`
-/

------------------------------------------------------------
-- Inputs of Rules
------------------------------------------------------------

namespace Blueprint

open Text

/- A dotted input has some entity before its first dot. -/
theorem isDotted_iff (input : String) :
    isDotted input = true ↔
      ∃ entity field,
        input.toList = entity ++ '.' :: field ∧
          '.' ∉ entity ∧ ¬ AllBlank entity := by
  have hDot : ∀ entity : List Char, '.' ∉ entity →
      ∀ c ∈ entity, (c == '.') = false := by
    intro entity hEntity c hMem
    rw [beq_eq_false_iff_ne]
    rintro rfl
    exact hEntity hMem
  unfold isDotted
  constructor
  · intro h
    cases hCut : cutAt (· == '.') input.toList with
    | none => simp [hCut] at h
    | some parts =>
        rcases parts with ⟨entity, field⟩
        rcases eq_append_of_cutAt hCut with
          ⟨c, hC, hText, hBefore⟩
        rw [beq_iff_eq] at hC
        subst hC
        refine ⟨entity, field, hText, ?_, ?_⟩
        · intro hMem
          have hFalse := hBefore _ hMem
          simp at hFalse
        · intro hBlank
          have hTrue := isBlankText_iff.mpr hBlank
          simp [hCut, hTrue] at h
  · rintro ⟨entity, field, hText, hEntity, hBlank⟩
    have hCut : cutAt (· == '.') input.toList =
        some (entity, field) := by
      rw [hText]
      exact cutAt_append_cons (hDot entity hEntity) (by simp)
    have hFalse : isBlankText entity = false := by
      rw [← Bool.not_eq_true, isBlankText_iff]
      exact hBlank
    simp [hCut, hFalse]

/- A dotted text refers to what its dot stands between. -/
theorem ofText_of_dotted
    (names : List String)
    {text : String}
    {entity field : List Char}
    (hText : text.toList = entity ++ '.' :: field)
    (hDot : '.' ∉ entity) :
    Reference.ofText names text =
      ⟨some (capitalized (trim entity)),
        if (trim field).isEmpty then none
        else some (String.ofList (trim field))⟩ := by
  have hBefore : ∀ c ∈ trimStart entity,
      (c == '.') = false := by
    intro c hMem
    rw [beq_eq_false_iff_ne]
    rintro rfl
    exact hDot ((List.dropWhile_sublist _).subset hMem)
  unfold Reference.ofText
  simp only [hText, trim_append_cons entity field
    (show isBlank '.' = false by decide),
    cutAt_append_cons hBefore (show ('.' == '.') = true by rfl),
    trim_trimStart, trim_trimEnd]

/- A dotted text refers to what stands before its dot. -/
theorem entity_ofText_of_dotted
    (names : List String)
    {text : String}
    {entity field : List Char}
    (hText : text.toList = entity ++ '.' :: field)
    (hDot : '.' ∉ entity) :
    (Reference.ofText names text).entity =
      some (capitalized (trim entity)) := by
  rw [ofText_of_dotted names hText hDot]

/- An issue with an input is made of a dotted question. -/
theorem inputIssue?_eq_some_iff
    {env : TypeEnv}
    {r : Rule}
    {i : Issue} :
    inputIssue? env r = some i ↔
      ∃ call finding,
        r.condition = some (.ai call) ∧
          isDotted call.input = true ∧
            referenceFinding? env r.description call.input
              (Reference.ofText env.entityNames call.input) =
                some finding ∧
              Issue.of finding r.location = i := by
  unfold inputIssue? Rule.aiCall?
  cases r.condition with
  | none => simp
  | some condition =>
      cases condition with
      | plain text => simp [Condition.aiCall?]
      | ai call =>
          by_cases hDotted : isDotted call.input = true
          · simp [Condition.aiCall?, hDotted]
          · simp [Condition.aiCall?, hDotted]

/- The known fields are those of the first declaration. -/
theorem fieldNames?_ofSpec
    (spec : Spec)
    (n : String) :
    (TypeEnv.ofSpec spec).fieldNames? n =
      (spec.entity? n).map SymbolTable.fieldNames := by
  unfold TypeEnv.fieldNames?
  rw [fieldsOf?_ofSpec, Option.map_map]
  congr 1
  funext e
  unfold TypeEnv.tagsOf SymbolTable.fieldNames
  rw [Function.comp_apply, List.map_map]
  rfl

/- The environment knows the fields of what is declared. -/
theorem fieldNames?_ofSpec_eq_none_iff
    (spec : Spec)
    (n : String) :
    (TypeEnv.ofSpec spec).fieldNames? n = none ↔
      ¬ spec.Declares n := by
  rw [fieldNames?_ofSpec, Option.map_eq_none_iff,
    ← Option.not_isSome_iff_eq_none]
  unfold Spec.entity? Spec.Declares
  rw [isSome_find?_name_iff]

/- Only a reference to an undeclared entity is an error. -/
theorem referenceFinding?_error_iff
    (spec : Spec)
    (rule input : String)
    {reference : Reference}
    {entity : String}
    (hEntity : reference.entity = some entity) :
    (∀ finding,
        referenceFinding? (TypeEnv.ofSpec spec) rule input
          reference = some finding →
            finding.severity ≠ .error) ↔
      spec.Declares entity := by
  unfold referenceFinding?
  rw [hEntity]
  dsimp only
  cases hKnown :
      (TypeEnv.ofSpec spec).fieldNames? entity with
  | none =>
      have hNot :=
        (fieldNames?_ofSpec_eq_none_iff spec entity).mp hKnown
      simp [hNot]
  | some known =>
      have hDeclares : spec.Declares entity := by
        by_contra hNot
        rw [← fieldNames?_ofSpec_eq_none_iff] at hNot
        rw [hNot] at hKnown
        cases hKnown
      simp only [hDeclares, iff_true]
      intro finding h
      cases hField : reference.field with
      | none => simp [hField] at h
      | some field =>
          simp only [hField] at h
          split at h
          · cases h
          · cases h
            intro hError
            cases hError

/- The inputs of a rule refer to declared entities. -/
theorem errorFree_inputIssue?_iff
    (spec : Spec)
    (r : Rule) :
    (∀ i, inputIssue? (TypeEnv.ofSpec spec) r = some i →
        i.severity ≠ .error) ↔
      ∀ call entity field,
        r.condition = some (.ai call) →
          call.input.toList = entity ++ '.' :: field →
            '.' ∉ entity → ¬ AllBlank entity →
              spec.Declares (capitalized (trim entity)) := by
  constructor
  · intro h call entity field hCall hText hDot hBlank
    have hEntity := entity_ofText_of_dotted
      (TypeEnv.ofSpec spec).entityNames hText hDot
    have hDotted : isDotted call.input = true :=
      (isDotted_iff _).mpr ⟨entity, field, hText, hDot, hBlank⟩
    apply (referenceFinding?_error_iff spec r.description
      call.input hEntity).mp
    intro finding hFinding
    exact h _ (inputIssue?_eq_some_iff.mpr
      ⟨call, finding, hCall, hDotted, hFinding, rfl⟩)
  · intro h i hIssue
    rcases inputIssue?_eq_some_iff.mp hIssue with
      ⟨call, finding, hCall, hDotted, hFinding, rfl⟩
    rcases (isDotted_iff _).mp hDotted with
      ⟨entity, field, hText, hDot, hBlank⟩
    have hEntity := entity_ofText_of_dotted
      (TypeEnv.ofSpec spec).entityNames hText hDot
    have hDeclares :=
      h call entity field hCall hText hDot hBlank
    exact (referenceFinding?_error_iff spec _ _ hEntity).mpr
      hDeclares finding hFinding

end Blueprint

------------------------------------------------------------
-- Specifications
------------------------------------------------------------

namespace Blueprint

/- Entities, their fields, screens and flows are named once. -/
theorem errorFree_duplicateIssues_iff (spec : Spec) :
    ErrorFree (duplicateIssues spec) ↔
      ((spec.entities.map Entity.name).Nodup ∧
        ∀ e ∈ spec.entities,
          (e.fields.map Field.name).Nodup) ∧
        (spec.screens.map Screen.name).Nodup ∧
          (spec.flows.map Flow.name).Nodup := by
  unfold duplicateIssues
  rw [errorFree_append_iff, errorFree_append_iff,
    errorFree_duplicateEntityIssues_iff,
    errorFree_repeatIssues_iff _ _ _ spec.screens,
    errorFree_repeatIssues_iff _ _ _ spec.flows, and_assoc]

/- All checks together find an error in an ill-formed one. -/
theorem errorFree_issues_iff (spec : Spec) :
    ErrorFree spec.issues ↔ spec.WellFormed := by
  have hForms : ErrorFree (spec.screens.flatMap
      (formIssues (TypeEnv.ofSpec spec))) := by
    rw [errorFree_flatMap_iff]
    intro s _
    exact errorFree_formIssues _ s
  simp only [Spec.issues, structureIssues, typingIssues,
    errorFree_append_iff, errorFree_duplicateIssues_iff,
    hForms, errorFree_flatMap_iff,
    errorFree_entityIssues_iff, errorFree_screenIssues_iff,
    errorFree_flowIssues_iff, errorFree_ruleIssues_iff,
    errorFree_integrationIssues_iff,
    errorFree_eventIssues_iff, errorFree_filterMap_iff,
    errorFree_inputIssue?_iff, errorFree_conflictIssues,
    errorFree_boundaryIssues, errorFree_wiringIssues,
    errorFree_styleIssues, and_true, true_and]
  constructor
  · rintro ⟨⟨⟨⟨hEntities, hFieldNames⟩, hScreens, hFlows⟩,
      ⟨⟨⟨⟨hFields, hScreen⟩, hSteps⟩, hRules⟩,
        hIntegrations, hEndpoints⟩, hEvents⟩, hInputs⟩
    refine ⟨hEntities, hScreens, hFlows, hIntegrations,
      hEvents, hFieldNames, hFields, hScreen, hSteps, ?_,
      hEndpoints⟩
    intro r hRule
    rcases hRules r hRule with ⟨hDescription, hBody, hCall⟩
    exact ⟨hDescription, hBody, hCall, hInputs r hRule⟩
  · intro hSpec
    refine ⟨⟨⟨⟨hSpec.entityNames, hSpec.fieldNames⟩,
      hSpec.screenNames, hSpec.flowNames⟩,
      ⟨⟨⟨⟨hSpec.fields, hSpec.screens⟩, hSpec.steps⟩, ?_⟩,
        hSpec.integrationNames, hSpec.integrations⟩,
      hSpec.eventNames⟩, ?_⟩
    · intro r hRule
      have hWell := hSpec.rules r hRule
      exact ⟨hWell.description, hWell.body, hWell.call⟩
    · intro r hRule
      exact (hSpec.rules r hRule).input

/-
  Verification succeeds on exactly the well-formed
  specifications, whether they were read from a document or
  not.
-/
theorem success_verify_iff (spec : Spec) :
    spec.verify.success = true ↔ spec.WellFormed := by
  unfold Spec.verify
  rw [success_ofIssues_iff]
  exact errorFree_issues_iff spec

end Blueprint
