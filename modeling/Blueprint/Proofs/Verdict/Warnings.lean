import Blueprint.Proofs.Conflict.Clashes
import Blueprint.Proofs.Verdict.Success

/-
  A specification is verified without warnings exactly when
  it is tidy. Every check that can warn is answered for by
  the part of tidiness that it guards.

  Main statements:
    * `lacks_warning_flowIssues_iff`
    * `lacks_warning_formIssues_iff`
    * `lacks_warning_inputIssue?_iff`
    * `lacks_warning_requiredIssues_iff`
    * `lacks_warning_issues_iff`
    * `warningCount_verify_eq_zero_iff`
-/

------------------------------------------------------------
-- Structure
------------------------------------------------------------

namespace Blueprint

/- Only an entity without fields is warned of. -/
theorem lacks_warning_entityIssues_iff
    (table : SymbolTable)
    (e : Entity) :
    Lacks .warning (entityIssues table e) ↔
      e.fields ≠ [] := by
  have hFields : Lacks .warning
      (e.fields.flatMap (fieldIssues table e.name)) := by
    rw [lacks_flatMap_iff]
    intro f _
    apply (reports_fieldIssues table e.name f).lacks
    decide
  unfold entityIssues
  rw [lacks_append_iff, and_iff_left hFields]
  by_cases hNone : e.fields = []
  · simp [hNone]
  · simp [hNone]

/- Only a dashboard without widgets is warned of. -/
theorem lacks_warning_screenIssues_iff
    (table : SymbolTable)
    (s : Screen) :
    Lacks .warning (screenIssues table s) ↔
      (s.kind = .dashboard → s.widgets ≠ []) := by
  have hKind : Lacks .warning
      ((kindFinding? s).toList.map (.of · s.location)) := by
    unfold kindFinding?
    cases s.kind <;> simp
  have hBinding : Lacks .warning (bindingIssues table s) :=
    (reports_bindingIssues table s).lacks (by decide)
  have hWidgets : Lacks .warning
      (s.widgets.filterMap (widgetIssue? s.name)) := by
    rw [lacks_filterMap_iff]
    intro w _ i hIssue
    unfold widgetIssue? at hIssue
    split at hIssue
    · cases hIssue
      simp
    · cases hIssue
  unfold screenIssues
  rw [lacks_append_iff, lacks_append_iff, lacks_append_iff,
    and_iff_right hKind, and_iff_right hBinding,
    and_iff_left hWidgets]
  unfold contentFinding?
  cases s.kind with
  | wizard =>
      by_cases hSteps : s.steps = []
      · simp [hSteps]
      · simp [hSteps]
  | dashboard =>
      by_cases hNone : s.widgets = []
      · simp [hNone]
      · simp [hNone]
  | form | list | detail | api | unrecognized _ => simp

/-
  No step is misnumbered when each has the number of its
  place. The induction counts the expected number up.
-/
theorem firstMisnumbered?_eq_none_iff
    (expected : Nat)
    (steps : List FlowStep) :
    firstMisnumbered? expected steps = none ↔
      ∀ k step,
        steps[k]? = some step →
          step.order.toNat = expected + k := by
  induction steps generalizing expected with
  | nil => simp [firstMisnumbered?]
  | cons step steps ih =>
      unfold firstMisnumbered?
      by_cases hOrder : step.order.toNat = expected
      · rw [if_pos hOrder, ih]
        constructor
        · intro hRest k other hOther
          cases k with
          | zero =>
              cases hOther
              exact hOrder
          | succ k =>
              have hPlace := hRest k other hOther
              omega
        · intro hAll k other hOther
          have hPlace := hAll (k + 1) other hOther
          omega
      · rw [if_neg hOrder]
        constructor
        · exact nofun
        · intro hAll
          exact absurd (hAll 0 step rfl) hOrder

/- A flow is warned of unless it is tidy and answered. -/
theorem lacks_warning_flowIssues_iff
    (hasAi : Bool)
    (f : Flow) :
    Lacks .warning (flowIssues hasAi f) ↔
      f.Tidy ∧
        (hasAi = true ∨ ∀ step ∈ f.steps, step.ai ≠ true) := by
  unfold flowIssues
  by_cases hEmpty : f.steps = []
  · have hNot : ¬ f.Tidy := fun hTidy => hTidy.steps hEmpty
    simp [hEmpty, hNot]
  · have hActions : Lacks .warning
        ((f.steps.filter isEmptyAiStep).map fun step =>
          .of (.error (.flowAiStepEmpty step.order f.name))
            step.location) := by
      simp
    have hSequence : Lacks .warning (sequenceIssue? f).toList ↔
        f.Tidy := by
      have hNumbered := firstMisnumbered?_eq_none_iff 1 f.steps
      simp only [Nat.add_comm 1] at hNumbered
      have hTidy : f.Tidy ↔
          firstMisnumbered? 1 f.steps = none :=
        ⟨fun h => hNumbered.mpr h.numbered,
          fun h => ⟨hEmpty, hNumbered.mp h⟩⟩
      rw [hTidy]
      unfold sequenceIssue?
      cases firstMisnumbered? 1 f.steps with
      | none => simp
      | some p => simp
    have hServed :
        Lacks .warning (unservedIssue? hasAi f).toList ↔
          (hasAi = true ∨
            ∀ step ∈ f.steps, step.ai ≠ true) := by
      rw [← List.find?_eq_none]
      unfold unservedIssue?
      cases hasAi with
      | true => simp
      | false =>
          cases f.steps.find? (·.ai) with
          | none => simp
          | some step => simp
    rw [if_neg (by simpa using hEmpty), lacks_append_iff,
      lacks_append_iff, and_iff_left hActions, hSequence,
      hServed]

/- Only a question that nothing answers is warned of. -/
theorem lacks_warning_ruleIssues_iff
    (hasAi : Bool)
    (r : Rule) :
    Lacks .warning (ruleIssues hasAi r) ↔
      (hasAi = true ∨
        ∀ call, r.condition ≠ some (.ai call)) := by
  have hDescription : Lacks .warning
      ((if isBlankString r.description then
          [Finding.error (.ruleMissingDescription r.label)]
        else []).map (.of · r.location)) := by
    cases isBlankString r.description <;> simp
  have hBody : Lacks .warning
      ((if r.condition.isNone && r.action.isNone then
          [Finding.error (.ruleEmpty r.label)]
        else []).map (.of · r.location)) := by
    cases r.condition.isNone && r.action.isNone <;> simp
  unfold ruleIssues ruleFindings
  rw [List.map_append, List.map_append, lacks_append_iff,
    lacks_append_iff, and_iff_right hDescription,
    and_iff_right hBody]
  unfold Rule.aiCall?
  cases r.condition with
  | none => simp
  | some condition =>
      cases condition with
      | plain text => simp [Condition.aiCall?]
      | ai call =>
          have hParts : Lacks .warning
              ((if (missingParts call).isEmpty then [] else
                [Finding.error (.ruleAiIncomplete r.label
                  (missingParts call))]).map
                    (.of · r.location)) := by
            cases (missingParts call).isEmpty <;> simp
          simp only [Option.bind_some, Condition.aiCall?]
          unfold aiFindings
          rw [List.map_append, lacks_append_iff,
            and_iff_right hParts]
          cases hasAi <;> simp

/- Only events without fields are warned of. -/
theorem lacks_warning_eventIssues_iff (events : List Event) :
    Lacks .warning (eventIssues events) ↔
      ∀ e ∈ events, e.fields ≠ [] := by
  unfold eventIssues
  rw [lacks_flatMap_iff, ← forall_withFirst_iff Event.name]
  apply forall₂_congr
  rintro ⟨e, first⟩ _
  dsimp only
  rw [List.map_append, lacks_append_iff]
  have hRepeat : Lacks .warning
      ((first.map fun f => Finding.error
        (.eventDuplicate e.name f.location.line)).toList.map
          (.of · e.location)) := by
    cases first with
    | none => exact lacks_nil
    | some f => simp
  rw [and_iff_right hRepeat]
  by_cases hNone : e.fields = []
  · simp [hNone]
  · simp [hNone]

/- Some integration answers. -/
theorem hasAi_iff (spec : Spec) :
    spec.hasAi = true ↔
      ∃ i ∈ spec.integrations, isAiCapable i = true :=
  List.any_eq_true

/- The structure is warned of unless it is tidy. -/
theorem lacks_warning_structureIssues_iff
    (spec : Spec)
    (table : SymbolTable) :
    Lacks .warning (structureIssues spec table) ↔
      (∀ e ∈ spec.entities, e.fields ≠ []) ∧
      (∀ s ∈ spec.screens,
        s.kind = .dashboard → s.widgets ≠ []) ∧
      (∀ f ∈ spec.flows, f.Tidy) ∧
      (∀ e ∈ spec.events, e.fields ≠ []) ∧
      (spec.AsksAi →
        ∃ i ∈ spec.integrations, isAiCapable i = true) := by
  have hIntegrations : Lacks .warning
      (integrationIssues spec.integrations) :=
    (reports_integrationIssues _).lacks (by decide)
  unfold structureIssues
  simp only [lacks_append_iff, lacks_flatMap_iff,
    lacks_warning_entityIssues_iff,
    lacks_warning_screenIssues_iff,
    lacks_warning_flowIssues_iff,
    lacks_warning_ruleIssues_iff,
    lacks_warning_eventIssues_iff, hIntegrations, and_true]
  rw [← hasAi_iff]
  constructor
  · rintro ⟨⟨⟨⟨hEntities, hScreens⟩, hFlows⟩, hRules⟩,
      hEvents⟩
    refine ⟨hEntities, hScreens, ?_, hEvents, ?_⟩
    · intro f hFlow
      exact (hFlows f hFlow).1
    · rintro (⟨f, hFlow, step, hStep, hAi⟩ |
        ⟨r, hRule, call, hCall⟩)
      · rcases (hFlows f hFlow).2 with hAnswers | hNone
        · exact hAnswers
        · exact absurd hAi (hNone step hStep)
      · rcases hRules r hRule with hAnswers | hNone
        · exact hAnswers
        · exact absurd hCall (hNone call)
  · rintro ⟨hEntities, hScreens, hFlows, hEvents, hAnswers⟩
    refine ⟨⟨⟨⟨hEntities, hScreens⟩, ?_⟩, ?_⟩, hEvents⟩
    · intro f hFlow
      refine ⟨hFlows f hFlow, ?_⟩
      by_cases hAi : spec.hasAi = true
      · exact .inl hAi
      · right
        intro step hStep hAsks
        exact hAi
          (hAnswers (.inl ⟨f, hFlow, step, hStep, hAsks⟩))
    · intro r hRule
      by_cases hAi : spec.hasAi = true
      · exact .inl hAi
      · right
        intro call hCall
        exact hAi (hAnswers (.inr ⟨r, hRule, call, hCall⟩))

end Blueprint

------------------------------------------------------------
-- Forms
------------------------------------------------------------

namespace Blueprint

/- Only a list of entities on a form is warned of. -/
theorem formFieldFinding?_warning_iff
    (screen entity field : String)
    (e : Entity) :
    (∀ finding,
        formFieldFinding? screen entity field
          (TypeEnv.tagsOf e) = some finding →
            finding.severity ≠ .warning) ↔
      ∀ f, FirstNamed Field.name e.fields field f →
        ∀ target, f.type ≠ .list target := by
  unfold formFieldFinding?
  simp only [lookup_tagsOf, ← Entity.field?_eq_some_iff]
  cases e.field? field with
  | none => simp
  | some f =>
      unfold TypeTag.ofField
      cases hType : f.type <;> simp [hType]

/- Names of lists on a form are warned of. -/
theorem lacks_warning_formIssues_iff
    (spec : Spec)
    (s : Screen) :
    Lacks .warning (formIssues (TypeEnv.ofSpec spec) s) ↔
      ∀ name e,
        s.kind = .form → s.entity = some name →
          FirstNamed Entity.name spec.entities name e →
            ∀ field ∈ s.fields, ∀ f,
              FirstNamed Field.name e.fields field f →
                ∀ target, f.type ≠ .list target := by
  unfold formIssues
  simp only [← Spec.entity?_eq_some_iff]
  split
  · rename_i name hKind hEntity
    rw [fieldsOf?_ofSpec]
    cases hFirst : spec.entity? name with
    | none =>
        simp only [Option.map_none, lacks_nil, true_iff]
        intro other e _ hOther hDeclared
        rw [hEntity, Option.some.injEq] at hOther
        rw [← hOther, hFirst] at hDeclared
        cases hDeclared
    | some e =>
        simp only [Option.map_some, lacks_filterMap_iff,
          Option.map_eq_some_iff, forall_exists_index,
          and_imp, forall_apply_eq_imp_iff₂,
          Issue.severity_of, formFieldFinding?_warning_iff]
        constructor
        · intro hAll other d _ hOther hDeclared
          rw [hEntity, Option.some.injEq] at hOther
          rw [← hOther, hFirst, Option.some.injEq]
            at hDeclared
          rw [← hDeclared]
          exact hAll
        · intro hAll
          exact hAll name e hKind hEntity hFirst
  · rename_i hNone
    simp only [lacks_nil, true_iff]
    intro name e hKind hEntity
    exact absurd hEntity (hNone name hKind)

/- A form with listed fields collects them for an entity. -/
theorem formEntity?_eq_some_iff
    {spec : Spec}
    {s : Screen}
    {e : Entity} :
    formEntity? spec s = some e ↔
      (s.kind = .form ∧ s.fields ≠ []) ∧
        ∃ name, s.entity = some name ∧
          FirstNamed Entity.name spec.entities name e := by
  unfold formEntity?
  simp only [← Spec.entity?_eq_some_iff,
    Option.ite_none_right_eq_some, Bool.and_eq_true,
    decide_eq_true_eq, Option.bind_eq_some_iff]
  simp

/- A form with listed fields should list the required ones. -/
theorem mem_expectedFields_iff
    {spec : Spec}
    {s : Screen}
    {e : Entity}
    {f : Field} :
    (e, f) ∈ expectedFields spec s ↔
      (s.kind = .form ∧ s.fields ≠ []) ∧
        (∃ name, s.entity = some name ∧
          FirstNamed Entity.name spec.entities name e) ∧
          f ∈ e.fields ∧ f.modifiers.required = true := by
  rw [← and_assoc, ← formEntity?_eq_some_iff]
  unfold expectedFields requiredFields
  cases formEntity? spec s with
  | none => simp
  | some other =>
      simp only [List.mem_map, List.mem_filter,
        Prod.mk.injEq, Option.some.injEq]
      constructor
      · rintro ⟨g, hField, rfl, rfl⟩
        exact ⟨rfl, hField⟩
      · rintro ⟨rfl, hField⟩
        exact ⟨f, hField, rfl, rfl⟩

/- Required fields that a form does not list are warned of. -/
theorem lacks_warning_requiredIssues_iff
    (spec : Spec)
    (s : Screen) :
    Lacks .warning (requiredIssues spec s) ↔
      ∀ name e,
        s.kind = .form → s.entity = some name →
          FirstNamed Entity.name spec.entities name e →
            s.fields ≠ [] →
              ∀ f ∈ e.fields, f.modifiers.required = true →
                f.name ∈ s.fields := by
  have hListed : Lacks .warning (requiredIssues spec s) ↔
      ∀ p ∈ expectedFields spec s, p.2.name ∈ s.fields := by
    unfold requiredIssues
    rw [lacks_filterMap_iff]
    apply forall₂_congr
    rintro ⟨e, f⟩ _
    by_cases hMem : f.name ∈ s.fields
    · simp [hMem]
    · simp [hMem]
  rw [hListed]
  constructor
  · intro hAll name e hKind hEntity hFirst hFields f hMem
      hRequired
    exact hAll (e, f) (mem_expectedFields_iff.mpr
      ⟨⟨hKind, hFields⟩, ⟨name, hEntity, hFirst⟩, hMem,
        hRequired⟩)
  · rintro hAll ⟨e, f⟩ hExpected
    rcases mem_expectedFields_iff.mp hExpected with
      ⟨⟨hKind, hFields⟩, ⟨name, hEntity, hFirst⟩, hMem,
        hRequired⟩
    exact hAll name e hKind hEntity hFirst hFields f hMem
      hRequired

end Blueprint

------------------------------------------------------------
-- Inputs of Rules
------------------------------------------------------------

namespace Blueprint

open Text

/- Only a field that a declared entity lacks is warned of. -/
theorem referenceFinding?_warning_iff
    (spec : Spec)
    (rule input : String)
    {reference : Reference}
    {entity : String}
    (hEntity : reference.entity = some entity) :
    (∀ finding,
        referenceFinding? (TypeEnv.ofSpec spec) rule input
          reference = some finding →
            finding.severity ≠ .warning) ↔
      ∀ e, FirstNamed Entity.name spec.entities entity e →
        ∀ field, reference.field = some field →
          ∃ f ∈ e.fields, f.name = field := by
  unfold referenceFinding?
  simp only [hEntity, fieldNames?_ofSpec,
    ← Spec.entity?_eq_some_iff]
  cases spec.entity? entity with
  | none => simp
  | some e =>
      cases reference.field with
      | none => simp
      | some field =>
          have hKnown : field ∈ SymbolTable.fieldNames e ↔
              ∃ f ∈ e.fields, f.name = field := by
            unfold SymbolTable.fieldNames
            rw [mem_sortNames_iff, mem_map_firsts_iff]
          simp only [Option.map_some, Option.some.injEq,
            forall_eq', ← hKnown]
          by_cases hMem : field ∈ SymbolTable.fieldNames e
          · simp [hMem]
          · simp [hMem]

/- The input of a rule is warned of unless it is tidy. -/
theorem lacks_warning_inputIssue?_iff
    (spec : Spec)
    (r : Rule) :
    (∀ i, inputIssue? (TypeEnv.ofSpec spec) r = some i →
        i.severity ≠ .warning) ↔
      r.Tidy spec := by
  have hField : ∀ {text : List Char} {field : String},
      (if (trim text).isEmpty then none
        else some (String.ofList (trim text))) =
          some field ↔
        ¬ AllBlank text ∧
          String.ofList (trim text) = field := by
    intro text field
    have hBlank : AllBlank text ↔ trim text = [] :=
      trim_eq_nil_iff.symm
    rw [hBlank]
    by_cases hNil : trim text = []
    · simp [hNil]
    · simp [hNil]
  constructor
  · intro h call entity field hCall hText hDot hBlank hSome
      e hFirst
    have hReference := ofText_of_dotted
      (TypeEnv.ofSpec spec).entityNames hText hDot
    have hDotted : isDotted call.input = true :=
      (isDotted_iff _).mpr ⟨entity, field, hText, hDot, hBlank⟩
    have hFindings := (referenceFinding?_warning_iff spec
      r.description call.input (by rw [hReference])).mp
        (fun finding hFinding => h _
          (inputIssue?_eq_some_iff.mpr
            ⟨call, finding, hCall, hDotted, hFinding, rfl⟩))
    apply hFindings e hFirst
    rw [hReference]
    exact hField.mpr ⟨hSome, rfl⟩
  · intro hTidy i hIssue
    rcases inputIssue?_eq_some_iff.mp hIssue with
      ⟨call, finding, hCall, hDotted, hFinding, rfl⟩
    rcases (isDotted_iff _).mp hDotted with
      ⟨entity, field, hText, hDot, hBlank⟩
    have hReference := ofText_of_dotted
      (TypeEnv.ofSpec spec).entityNames hText hDot
    refine (referenceFinding?_warning_iff spec _ _
      (by rw [hReference])).mpr ?_ finding hFinding
    intro e hFirst name hName
    rw [hReference] at hName
    rcases hField.mp hName with ⟨hSome, rfl⟩
    exact hTidy call entity field hCall hText hDot hBlank
      hSome e hFirst

end Blueprint

------------------------------------------------------------
-- Specifications
------------------------------------------------------------

namespace Blueprint

/- Of the wiring, only required fields are warned of. -/
theorem lacks_warning_wiringIssues_iff (spec : Spec) :
    Lacks .warning (wiringIssues spec) ↔
      ∀ s ∈ spec.screens,
        Lacks .warning (requiredIssues spec s) := by
  have hUnreferenced :
      Lacks .warning (unreferencedIssues spec) :=
    (reports_unreferencedIssues spec).lacks (by decide)
  have hCircular : Lacks .warning (circularIssues spec) :=
    (reports_circularIssues spec).lacks (by decide)
  unfold wiringIssues
  rw [lacks_append_iff, lacks_append_iff,
    and_iff_left hCircular, and_iff_right hUnreferenced,
    lacks_flatMap_iff]

/- All checks together warn of what is not tidy. -/
theorem lacks_warning_issues_iff (spec : Spec) :
    Lacks .warning spec.issues ↔ spec.Tidy := by
  have hDuplicates : Lacks .warning (duplicateIssues spec) :=
    (reports_duplicateIssues spec).lacks (by decide)
  have hBoundaries : Lacks .warning (boundaryIssues spec) :=
    (reports_boundaryIssues spec).lacks (by decide)
  have hStyle : Lacks .warning (styleIssues spec) :=
    (reports_styleIssues spec).lacks (by decide)
  simp only [Spec.issues, typingIssues, lacks_append_iff,
    hDuplicates, hBoundaries, hStyle, true_and, and_true,
    lacks_warning_structureIssues_iff, lacks_flatMap_iff,
    lacks_warning_formIssues_iff, lacks_filterMap_iff,
    lacks_warning_inputIssue?_iff,
    lacks_warning_conflictIssues_iff,
    lacks_warning_wiringIssues_iff,
    lacks_warning_requiredIssues_iff]
  constructor
  · rintro ⟨⟨⟨⟨hEntities, hWidgets, hFlows, hEvents,
      hAnswered⟩, hEditable, hRules⟩, hCompatible⟩,
      hRequired⟩
    refine ⟨hEntities, hEvents, hFlows, ?_, hRules,
      hAnswered, hCompatible⟩
    intro s hScreen
    exact ⟨hWidgets s hScreen, hEditable s hScreen,
      hRequired s hScreen⟩
  · intro hTidy
    refine ⟨⟨⟨⟨hTidy.entities, ?_, hTidy.flows,
      hTidy.events, hTidy.answered⟩, ?_, hTidy.rules⟩,
      hTidy.compatible⟩, ?_⟩
    · intro s hScreen
      exact (hTidy.screens s hScreen).widgets
    · intro s hScreen
      exact (hTidy.screens s hScreen).editable
    · intro s hScreen
      exact (hTidy.screens s hScreen).required

/-
  Verification warns of exactly the specifications that are
  not tidy, whether or not they are well-formed.
-/
theorem warningCount_verify_eq_zero_iff (spec : Spec) :
    spec.verify.warningCount = 0 ↔ spec.Tidy := by
  unfold Spec.verify Report.ofIssues
  rw [countSeverity_eq_zero_iff]
  exact lacks_warning_issues_iff spec

end Blueprint
