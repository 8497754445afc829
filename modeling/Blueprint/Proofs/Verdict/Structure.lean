import Blueprint.Proofs.Declared
import Blueprint.Proofs.Text.Blank
import Blueprint.Proofs.Verdict.Errors
import Blueprint.Proofs.Verdict.WellFormed

/-
  The checks of repeated names and of structure, one by one:
  each reports no error exactly when the part of
  well-formedness that it guards holds.

  Main statements:
    * `errorFree_duplicateEntityIssues_iff`
    * `errorFree_entityIssues_iff`
    * `errorFree_screenIssues_iff`
    * `errorFree_flowIssues_iff`
    * `errorFree_ruleIssues_iff`
    * `errorFree_integrationIssues_iff`
    * `errorFree_eventIssues_iff`
-/

------------------------------------------------------------
-- Names
------------------------------------------------------------

namespace Blueprint

variable {α : Type}

/- A text of a specification is blank when all of it is. -/
theorem isBlankString_iff (s : String) :
    isBlankString s = true ↔ AllBlank s.toList :=
  Text.isBlankText_iff

/- Repeated names are errors, so no error is no repeat. -/
theorem errorFree_repeatIssues_iff
    (name : α → String)
    (location : α → Location)
    (matter : String → Nat → Matter)
    (declarations : List α) :
    ErrorFree
        (repeatIssues name location matter declarations) ↔
      (declarations.map name).Nodup := by
  unfold repeatIssues
  rw [errorFree_flatMap_iff,
    ← forall_withFirst_eq_none_iff]
  apply forall₂_congr
  rintro ⟨d, first⟩ _
  cases first with
  | none => simp
  | some f => simp

/- The entities and the fields of each have different names. -/
theorem errorFree_duplicateEntityIssues_iff
    (entities : List Entity) :
    ErrorFree (duplicateEntityIssues entities) ↔
      (entities.map Entity.name).Nodup ∧
        ∀ e ∈ entities, (e.fields.map Field.name).Nodup := by
  unfold duplicateEntityIssues
  rw [errorFree_flatMap_iff,
    ← forall_withFirst_eq_none_iff,
    ← forall_withFirst_iff Entity.name, ← forall₂_and]
  apply forall₂_congr
  rintro ⟨e, first⟩ _
  dsimp only
  rw [errorFree_append_iff, duplicateFieldIssues,
    errorFree_repeatIssues_iff, and_comm]
  cases first with
  | none => simp
  | some f => simp

end Blueprint

------------------------------------------------------------
-- Entities
------------------------------------------------------------

namespace Blueprint

/- Nothing is found about a type exactly when it is in order. -/
theorem typeFinding?_eq_none_iff
    (spec : Spec)
    (entity : String)
    (f : Field) :
    typeFinding? (SymbolTable.ofSpec spec) entity f = none ↔
      f.type.WellFormed spec := by
  have hTarget : ∀ target finding,
      (if (SymbolTable.ofSpec spec).hasEntity target = true
        then none else some finding) =
          (none : Option Finding) ↔
        spec.Declares target := by
    intro target finding
    rw [Spec.Declares, ← hasEntity_ofSpec_iff]
    simp
  unfold typeFinding? FieldType.WellFormed
  cases f.type with
  | scalar s => simp
  | enum values => simp
  | relationship target => exact hTarget target _
  | list target => exact hTarget target _
  | ai prompt => simp [← isBlankString_iff]
  | computed expression => simp [← isBlankString_iff]
  | unrecognized raw => simp

/- Whatever is found about a type is an error. -/
theorem severity_of_typeFinding?
    {table : SymbolTable}
    {entity : String}
    {f : Field}
    {finding : Finding}
    (h : typeFinding? table entity f = some finding) :
    finding.severity = .error := by
  exact (tellsOf_of_typeFinding? h).severity_eq (by decide)

/- Nothing is found about bounds exactly when they fit. -/
theorem boundFinding?_eq_none_iff
    (entity : String)
    (f : Field) :
    boundFinding? entity f = none ↔
      ∀ min max,
        f.modifiers.min = some min →
          f.modifiers.max = some max → min ≤ max := by
  unfold boundFinding?
  cases f.modifiers.min with
  | none => simp
  | some min =>
      cases f.modifiers.max with
      | none => simp
      | some max => simp [Int64.not_lt]

/- Whatever is found about bounds is an error. -/
theorem severity_of_boundFinding?
    {entity : String}
    {f : Field}
    {finding : Finding}
    (h : boundFinding? entity f = some finding) :
    finding.severity = .error := by
  exact (tellsOf_of_boundFinding? h).severity_eq (by decide)

/- A finding that is always an error is best not made. -/
theorem errorFree_toList_map_iff
    {finding? : Option Finding}
    (location : Location)
    (hError :
      ∀ finding, finding? = some finding →
        finding.severity = .error) :
    ErrorFree (finding?.toList.map (.of · location)) ↔
      finding? = none := by
  cases finding? with
  | none => simp
  | some finding => simp [hError finding rfl]

/- A field has no error when it is well-formed. -/
theorem errorFree_fieldIssues_iff
    (spec : Spec)
    (entity : String)
    (f : Field) :
    ErrorFree
        (fieldIssues (SymbolTable.ofSpec spec) entity f) ↔
      f.WellFormed spec := by
  unfold fieldIssues
  rw [List.map_append, errorFree_append_iff,
    errorFree_toList_map_iff _
      (fun _ => severity_of_typeFinding?),
    errorFree_toList_map_iff _
      (fun _ => severity_of_boundFinding?),
    typeFinding?_eq_none_iff, boundFinding?_eq_none_iff]
  constructor
  · rintro ⟨hType, hBounds⟩
    exact ⟨hType, hBounds⟩
  · rintro ⟨hType, hBounds⟩
    exact ⟨hType, hBounds⟩

/- An entity has no error when its fields are well-formed. -/
theorem errorFree_entityIssues_iff
    (spec : Spec)
    (e : Entity) :
    ErrorFree (entityIssues (SymbolTable.ofSpec spec) e) ↔
      ∀ f ∈ e.fields, f.WellFormed spec := by
  unfold entityIssues
  have hNoFields : ErrorFree
      (if e.fields.isEmpty then
        [.of (.warning (.entityNoFields e.name)) e.location]
      else
        []) := by
    split
    · rw [errorFree_cons_iff]
      exact ⟨nofun, errorFree_nil⟩
    · exact errorFree_nil
  rw [errorFree_append_iff, errorFree_flatMap_iff,
    and_iff_right hNoFields]
  apply forall₂_congr
  intro f _
  exact errorFree_fieldIssues_iff spec e.name f

end Blueprint

------------------------------------------------------------
-- Screens
------------------------------------------------------------

namespace Blueprint

/- A screen of no known kind is an error. -/
theorem errorFree_kindFinding?_iff (s : Screen) :
    ErrorFree
        ((kindFinding? s).toList.map (.of · s.location)) ↔
      ∀ raw, s.kind ≠ .unrecognized raw := by
  have hError : ∀ finding, kindFinding? s = some finding →
      finding.severity = .error := by
    intro finding h
    unfold kindFinding? at h
    split at h
    · cases h
      rfl
    · cases h
  rw [errorFree_toList_map_iff _ hError]
  unfold kindFinding?
  cases s.kind <;> simp

/- The names that a screen uses are its named fields. -/
theorem map_fst_usedFields (s : Screen) :
    (usedFields s).map Prod.fst = s.namedFields := by
  unfold usedFields Screen.namedFields
  simp [List.map_flatMap, Function.comp_def]

/-
  The entity of a screen is declared, and its first
  declaration has the fields that the screen names.
-/
theorem errorFree_bindingIssues_iff
    (spec : Spec)
    (s : Screen) :
    ErrorFree
        (bindingIssues (SymbolTable.ofSpec spec) s) ↔
      ∀ name, s.entity = some name →
        spec.Declares name ∧
          ∀ e, spec.entity? name = some e →
            ∀ field ∈ s.namedFields,
              ∃ f ∈ e.fields, f.name = field := by
  unfold bindingIssues
  cases s.entity with
  | none => simp
  | some name =>
      simp only [Option.some.injEq, forall_eq']
      by_cases hTable :
          (SymbolTable.ofSpec spec).hasEntity name = true
      · have hDeclares : spec.Declares name :=
          (hasEntity_ofSpec_iff spec name).mp hTable
        have hFirst : ∃ e, spec.entity? name = some e :=
          Option.isSome_iff_exists.mp
            ((isSome_find?_name_iff Entity.name _ _).mpr
              hDeclares)
        rcases hFirst with ⟨e, hFirst⟩
        rw [if_pos hTable, and_iff_right hDeclares,
          errorFree_filterMap_iff, ← map_fst_usedFields,
          hFirst]
        simp only [Option.some.injEq, forall_eq',
          List.forall_mem_map]
        apply forall₂_congr
        rintro ⟨field, location⟩ _
        have hField := hasField_ofSpec_iff spec name field
        simp only [hFirst, Option.some.injEq,
          exists_eq_left'] at hField
        rw [← hField]
        simp
      · have hNot : ¬ spec.Declares name := by
          intro hDeclares
          exact hTable
            ((hasEntity_ofSpec_iff spec name).mpr hDeclares)
        simp [hTable, hNot]

/- Only a wizard without steps is an error. -/
theorem errorFree_contentFinding?_iff (s : Screen) :
    ErrorFree
        ((contentFinding? s).toList.map
          (.of · s.location)) ↔
      (s.kind = .wizard → s.steps ≠ []) := by
  unfold contentFinding?
  cases s.kind with
  | wizard =>
      by_cases hSteps : s.steps = []
      · simp [hSteps]
      · simp [hSteps]
  | dashboard =>
      by_cases hWidgets : s.widgets = []
      · simp [hWidgets]
      · simp [hWidgets]
  | form | list | detail | api | unrecognized _ => simp

/- A widget of no known kind is an error. -/
theorem errorFree_widgetIssues_iff (s : Screen) :
    ErrorFree (s.widgets.filterMap (widgetIssue? s.name)) ↔
      ∀ w ∈ s.widgets, ∀ raw,
        w.kind ≠ .unrecognized raw := by
  rw [errorFree_filterMap_iff]
  apply forall₂_congr
  intro w _
  unfold widgetIssue?
  cases w.kind <;> simp

/- A screen has no error when it is well-formed. -/
theorem errorFree_screenIssues_iff
    (spec : Spec)
    (s : Screen) :
    ErrorFree (screenIssues (SymbolTable.ofSpec spec) s) ↔
      s.WellFormed spec := by
  unfold screenIssues
  rw [errorFree_append_iff, errorFree_append_iff,
    errorFree_append_iff, errorFree_kindFinding?_iff,
    errorFree_bindingIssues_iff,
    errorFree_contentFinding?_iff,
    errorFree_widgetIssues_iff]
  constructor
  · rintro ⟨⟨⟨hKind, hBinding⟩, hSteps⟩, hWidgets⟩
    refine ⟨hKind, hWidgets, ?_, ?_, hSteps⟩
    · intro name hName
      exact (hBinding name hName).1
    · intro name e hName hFirst
      exact (hBinding name hName).2 e hFirst
  · intro hScreen
    refine ⟨⟨⟨hScreen.kind, ?_⟩, hScreen.steps⟩,
      hScreen.widgets⟩
    intro name hName
    refine ⟨hScreen.entity name hName, ?_⟩
    intro e hFirst
    exact hScreen.fields name e hName hFirst

end Blueprint

------------------------------------------------------------
-- Flows
------------------------------------------------------------

namespace Blueprint

/- A step is fine unless it is an AI step without action. -/
theorem isEmptyAiStep_eq_false_iff (step : FlowStep) :
    isEmptyAiStep step = false ↔ step.WellFormed := by
  unfold isEmptyAiStep FlowStep.WellFormed
  cases step.ai with
  | false => simp
  | true =>
      cases step.action with
      | none => simp
      | some action => simp [← isBlankString_iff]

/- Steps out of sequence are no error. -/
theorem errorFree_sequenceIssue? (f : Flow) :
    ErrorFree (sequenceIssue? f).toList := by
  unfold sequenceIssue?
  cases firstMisnumbered? 1 f.steps with
  | none => simp
  | some p => simp

/- AI steps without an integration are no error. -/
theorem errorFree_unservedIssue?
    (hasAi : Bool)
    (f : Flow) :
    ErrorFree (unservedIssue? hasAi f).toList := by
  unfold unservedIssue?
  split
  · simp
  · cases f.steps.find? (·.ai) with
    | none => simp
    | some step => simp

/- A flow has no error when its AI steps have actions. -/
theorem errorFree_flowIssues_iff
    (hasAi : Bool)
    (f : Flow) :
    ErrorFree (flowIssues hasAi f) ↔
      ∀ step ∈ f.steps, step.WellFormed := by
  unfold flowIssues
  by_cases hEmpty : f.steps = []
  · simp [hEmpty]
  · rw [if_neg (by simpa using hEmpty),
      errorFree_append_iff, errorFree_append_iff,
      and_iff_right (errorFree_sequenceIssue? f),
      and_iff_left (errorFree_unservedIssue? hasAi f),
      errorFree_map_iff]
    simp only [Issue.severity_of, Finding.severity_error,
      List.mem_filter, ne_eq, not_true_eq_false, imp_false,
      not_and, Bool.not_eq_true]
    apply forall₂_congr
    intro step _
    exact isEmptyAiStep_eq_false_iff step

end Blueprint

------------------------------------------------------------
-- Rules
------------------------------------------------------------

namespace Blueprint

open Text

/- A question to an AI has no error when it has its parts. -/
theorem errorFree_aiFindings_iff
    (hasAi : Bool)
    (rule : String)
    (call : AiCall)
    (location : Location) :
    ErrorFree
        ((aiFindings hasAi rule call).map (.of · location)) ↔
      ¬ AllBlank call.input.toList ∧
        ¬ AllBlank call.prompt.toList := by
  have hServed : ErrorFree
      ((if hasAi then [] else
        [Finding.warning (.ruleAiWithoutIntegration rule)]).map
          (.of · location)) := by
    cases hasAi <;> simp
  unfold aiFindings
  rw [List.map_append, errorFree_append_iff,
    and_iff_left hServed, ← isBlankString_iff,
    ← isBlankString_iff]
  unfold missingParts
  cases isBlankString call.input <;>
    cases isBlankString call.prompt <;> simp

/-
  A rule has no error of structure when it is described,
  demands something and asks complete questions.
-/
theorem errorFree_ruleIssues_iff
    (hasAi : Bool)
    (r : Rule) :
    ErrorFree (ruleIssues hasAi r) ↔
      ¬ AllBlank r.description.toList ∧
        (r.condition ≠ none ∨ r.action ≠ none) ∧
          ∀ call, r.condition = some (.ai call) →
            ¬ AllBlank call.input.toList ∧
              ¬ AllBlank call.prompt.toList := by
  have hDescription : ErrorFree
      ((if isBlankString r.description then
          [Finding.error (.ruleMissingDescription r.label)]
        else []).map (.of · r.location)) ↔
        ¬ AllBlank r.description.toList := by
    rw [← isBlankString_iff]
    cases isBlankString r.description <;> simp
  have hBody : ErrorFree
      ((if r.condition.isNone && r.action.isNone then
          [Finding.error (.ruleEmpty r.label)]
        else []).map (.of · r.location)) ↔
        r.condition ≠ none ∨ r.action ≠ none := by
    cases r.condition <;> cases r.action <;> simp
  unfold ruleIssues ruleFindings
  rw [List.map_append, List.map_append, errorFree_append_iff,
    errorFree_append_iff, hDescription, hBody, and_assoc]
  apply and_congr_right
  intro _
  apply and_congr_right
  intro _
  unfold Rule.aiCall?
  cases r.condition with
  | none => simp
  | some condition =>
      cases condition with
      | plain text => simp [Condition.aiCall?]
      | ai call =>
          simp only [Option.bind_some, Condition.aiCall?,
            Option.some.injEq, Condition.ai.injEq, forall_eq']
          exact errorFree_aiFindings_iff hasAi _ call _

end Blueprint

------------------------------------------------------------
-- Integrations and Events
------------------------------------------------------------

namespace Blueprint

/- An endpoint is found fault with unless it is callable. -/
theorem endpointFinding?_eq_none_iff (i : Integration) :
    endpointFinding? i = none ↔ i.WellFormed := by
  unfold endpointFinding? Integration.WellFormed
  cases i.endpoint with
  | none => simp
  | some endpoint =>
      simp only [ite_eq_left_iff, reduceCtorEq, imp_false,
        not_not, Option.some.injEq, forall_eq']
      unfold isWellFormedEndpoint
      cases Url.parse? endpoint with
      | none => simp
      | some url => simp [Option.isSome_iff_ne_none]

/- Integrations have different names and good endpoints. -/
theorem errorFree_integrationIssues_iff
    (integrations : List Integration) :
    ErrorFree (integrationIssues integrations) ↔
      (integrations.map Integration.name).Nodup ∧
        ∀ i ∈ integrations, i.WellFormed := by
  unfold integrationIssues
  rw [errorFree_flatMap_iff,
    ← forall_withFirst_eq_none_iff,
    ← forall_withFirst_iff Integration.name, ← forall₂_and]
  apply forall₂_congr
  rintro ⟨i, first⟩ _
  have hEndpoint : ∀ finding,
      endpointFinding? i = some finding →
        finding.severity = .error := by
    intro finding h
    unfold endpointFinding? at h
    split at h
    · cases h
    · split at h
      · cases h
      · cases h
        rfl
  dsimp only
  rw [List.map_append, errorFree_append_iff,
    errorFree_toList_map_iff _ hEndpoint,
    endpointFinding?_eq_none_iff]
  cases first with
  | none => simp
  | some f => simp

/- Events have different names. -/
theorem errorFree_eventIssues_iff (events : List Event) :
    ErrorFree (eventIssues events) ↔
      (events.map Event.name).Nodup := by
  unfold eventIssues
  rw [errorFree_flatMap_iff,
    ← forall_withFirst_eq_none_iff]
  apply forall₂_congr
  rintro ⟨e, first⟩ _
  have hFields : ErrorFree
      ((if e.fields.isEmpty then
        [Finding.warning (.eventNoFields e.name)] else []).map
          (.of · e.location)) := by
    cases e.fields.isEmpty <;> simp
  dsimp only
  rw [List.map_append, errorFree_append_iff,
    and_iff_left hFields]
  cases first with
  | none => simp
  | some f => simp

end Blueprint
