import Blueprint.Proofs.Issue.Checks
import Blueprint.Proofs.Lookup
import Blueprint.Proofs.Verdict.Structure

/-
  To declare one more integration that can answer settles
  the warnings that none does, and nothing else: the other
  issues stay as they are, in their order.

  Main definition:
    * `Code.unanswered`

  Main statements:
    * `integrationIssues_insert`
    * `issues_insert`
    * `verify_insert_integration`
-/

------------------------------------------------------------
-- One More Item of a New Name
------------------------------------------------------------

namespace Blueprint

variable {α : Type}

/- An item that was seen is not found by another name. -/
theorem find?_name_append_cons
    {name : α → String}
    {item : α}
    {n : String}
    (first second : List α)
    (hName : name item ≠ n) :
    ((first ++ item :: second).find?
        fun other => name other == n) =
      (first ++ second).find? fun other => name other == n := by
  have hSkip : ((item :: second).find?
      fun other => name other == n) =
        second.find? fun other => name other == n :=
    List.find?_cons_of_neg (by simpa using hName)
  rw [List.find?_append, List.find?_append, hSkip]

/-
  Items of other names are paired alike, whether or not the
  item was seen. The induction lets the seen items grow in
  front of it.
-/
theorem withFirstAfter_append_cons
    {name : α → String}
    {item : α}
    (first second items : List α)
    (hNew : ∀ other ∈ items, name item ≠ name other) :
    withFirstAfter name (first ++ item :: second) items =
      withFirstAfter name (first ++ second) items := by
  induction items generalizing first with
  | nil => rfl
  | cons other items ih =>
      have hOther := hNew other List.mem_cons_self
      have hRest : ∀ next ∈ items, name item ≠ name next := by
        intro next hMem
        exact hNew next (List.mem_cons_of_mem _ hMem)
      have hSeen := ih first hRest
      have hMore := ih (other :: first) hRest
      simp only [List.cons_append] at hMore
      unfold withFirstAfter
      rw [find?_name_append_cons first second hOther, hSeen,
        hMore]

/-
  One more item of a new name gives one more pair, and the
  pairs of the others stay.
-/
theorem withFirstAfter_insert
    {name : α → String}
    {item : α}
    (seen before after : List α)
    (hSeen : ∀ other ∈ seen, name other ≠ name item)
    (hBefore : ∀ other ∈ before, name other ≠ name item)
    (hAfter : ∀ other ∈ after, name other ≠ name item) :
    ∃ first second,
      withFirstAfter name seen (before ++ after) =
          first ++ second ∧
        withFirstAfter name seen (before ++ item :: after) =
          first ++ (item, none) :: second := by
  induction before generalizing seen with
  | nil =>
      have hFind : (seen.find?
          fun other => name other == name item) = none := by
        simpa using hSeen
      have hSkip := withFirstAfter_append_cons [] seen after
        (fun other hMem => (hAfter other hMem).symm)
      refine ⟨[], withFirstAfter name seen after, rfl, ?_⟩
      simp only [List.nil_append] at hSkip ⊢
      rw [withFirstAfter, hFind, hSkip]
  | cons head before ih =>
      have hHead := hBefore head List.mem_cons_self
      have hRest : ∀ other ∈ before,
          name other ≠ name item := by
        intro other hMem
        exact hBefore other (List.mem_cons_of_mem _ hMem)
      simp only [List.cons_append]
      unfold withFirstAfter
      cases seen.find? fun other => name other == name head with
      | some found =>
          rcases ih seen hSeen hRest with
            ⟨first, second, hOld, hMore⟩
          refine ⟨(head, some found) :: first, second, ?_, ?_⟩
          · simp [hOld]
          · simp [hMore]
      | none =>
          have hGrown : ∀ other ∈ head :: seen,
              name other ≠ name item :=
            List.forall_mem_cons.mpr ⟨hHead, hSeen⟩
          rcases ih (head :: seen) hGrown hRest with
            ⟨first, second, hOld, hMore⟩
          refine ⟨(head, none) :: first, second, ?_, ?_⟩
          · simp [hOld]
          · simp [hMore]

end Blueprint

------------------------------------------------------------
-- Issues that an Integration Settles
------------------------------------------------------------

namespace Blueprint

/- The codes of warnings that no integration answers. -/
def Code.unanswered : List Code :=
  [.flowAiWithoutIntegration, .ruleAiWithoutIntegration]

/- A flow keeps what is found when an integration answers. -/
theorem withoutCodes_flowIssues
    (hasAi : Bool)
    (f : Flow) :
    withoutCodes Code.unanswered (flowIssues hasAi f) =
      flowIssues true f := by
  have hKept := (reports_flowIssues true f).withoutCodes_eq_self
    (show ∀ c ∈ Code.flows true, c ∉ Code.unanswered by
      decide)
  have hGone :=
    (reports_unservedIssue? hasAi f).withoutCodes_eq_nil
      (show ∀ c ∈ [Code.flowAiWithoutIntegration],
        c ∈ Code.unanswered by decide)
  have hNone : unservedIssue? true f = none := rfl
  unfold flowIssues at hKept ⊢
  by_cases hEmpty : f.steps.isEmpty = true
  · simp only [hEmpty, if_true] at hKept ⊢
    exact hKept
  · simp only [hEmpty, Bool.false_eq_true, if_false, hNone,
      Option.toList_none, List.append_nil] at hKept ⊢
    rw [withoutCodes_append, hKept, hGone, List.append_nil]

/- A rule keeps what is found when an integration answers. -/
theorem withoutCodes_ruleIssues
    (hasAi : Bool)
    (r : Rule) :
    withoutCodes Code.unanswered (ruleIssues hasAi r) =
      ruleIssues true r := by
  have hKept := (reports_ruleIssues true r).withoutCodes_eq_self
    (show ∀ c ∈ Code.rules true, c ∉ Code.unanswered by
      decide)
  have hSplit : ruleIssues hasAi r =
      ruleIssues true r ++
        if hasAi then []
        else r.aiCall?.toList.map fun _ =>
          .of (.warning (.ruleAiWithoutIntegration r.label))
            r.location := by
    unfold ruleIssues ruleFindings
    cases r.aiCall? with
    | none => simp
    | some call => cases hasAi <;> simp [aiFindings]
  have hGone : Reports [.ruleAiWithoutIntegration]
      (if hasAi then []
        else r.aiCall?.toList.map fun _ =>
          .of (.warning (.ruleAiWithoutIntegration r.label))
            r.location) := by
    split
    · exact reports_nil
    · rw [reports_map_iff]
      intro _ _
      exact Issue.tellsOf_of.mpr ⟨List.mem_cons_self, rfl⟩
  rw [hSplit, withoutCodes_append, hKept,
    hGone.withoutCodes_eq_nil (by decide), List.append_nil]

/-
  An integration of a new name with a good endpoint gives no
  issue, and those of the others stay.
-/
theorem integrationIssues_insert
    {before after : List Integration}
    {i : Integration}
    (hNew : ∀ other ∈ before ++ after, other.name ≠ i.name)
    (hEndpoint : i.WellFormed) :
    integrationIssues (before ++ i :: after) =
      integrationIssues (before ++ after) := by
  rw [List.forall_mem_append] at hNew
  rcases withFirstAfter_insert [] before after (by simp)
    hNew.1 hNew.2 with ⟨first, second, hOld, hMore⟩
  have hNone : endpointFinding? i = none :=
    (endpointFinding?_eq_none_iff i).mpr hEndpoint
  unfold integrationIssues withFirst
  rw [hOld, hMore, List.flatMap_append, List.flatMap_append,
    List.flatMap_cons]
  simp [hNone]

end Blueprint

------------------------------------------------------------
-- Specifications
------------------------------------------------------------

namespace Blueprint

/- The table of entities and fields leaves integrations out. -/
theorem agree_withIntegrations
    (spec : Spec)
    (integrations : List Integration) :
    (SymbolTable.ofSpec
      { spec with integrations := integrations }).Agree
        (SymbolTable.ofSpec spec) where
  entity := fun _ => rfl
  field := fun _ _ => rfl

variable {spec : Spec}
variable {before after : List Integration}
variable {i : Integration}

/- The structure keeps its issues but for unanswered ones. -/
theorem structureIssues_insert
    (hPlace : spec.integrations = before ++ after)
    (hAi : isAiCapable i = true)
    (hNew :
      ∀ other ∈ spec.integrations, other.name ≠ i.name)
    (hEndpoint : i.WellFormed) :
    let more :=
      { spec with integrations := before ++ i :: after }
    structureIssues more (SymbolTable.ofSpec more) =
      withoutCodes Code.unanswered
        (structureIssues spec (SymbolTable.ofSpec spec)) := by
  intro more
  let table := SymbolTable.ofSpec spec
  have hAgree : (SymbolTable.ofSpec more).Agree table :=
    agree_withIntegrations spec _
  have hAnswers : more.hasAi = true :=
    List.any_eq_true.mpr ⟨i, by simp [more], hAi⟩
  rw [hPlace] at hNew
  have hIntegrations : integrationIssues more.integrations =
      integrationIssues spec.integrations := by
    rw [hPlace]
    exact integrationIssues_insert hNew hEndpoint
  have hEntities : Reports Code.entities
      (spec.entities.flatMap (entityIssues table)) :=
    reports_flatMap_iff.mpr fun e _ =>
      reports_entityIssues table e
  have hScreens : Reports Code.screens
      (spec.screens.flatMap (screenIssues table)) :=
    reports_flatMap_iff.mpr fun s _ =>
      reports_screenIssues table s
  have hOthers := reports_integrationIssues spec.integrations
  have hEvents := reports_eventIssues spec.events
  unfold structureIssues
  simp only [withoutCodes_append, withoutCodes_flatMap,
    withoutCodes_flowIssues, withoutCodes_ruleIssues]
  rw [hAnswers, hIntegrations,
    funext (entityIssues_congr hAgree),
    funext (screenIssues_congr hAgree),
    hOthers.withoutCodes_eq_self (by decide),
    hEvents.withoutCodes_eq_self (by decide),
    ← withoutCodes_flatMap, ← withoutCodes_flatMap,
    hEntities.withoutCodes_eq_self (by decide),
    hScreens.withoutCodes_eq_self (by decide)]

/- All checks keep their issues but for unanswered ones. -/
theorem issues_insert
    (hPlace : spec.integrations = before ++ after)
    (hAi : isAiCapable i = true)
    (hNew :
      ∀ other ∈ spec.integrations, other.name ≠ i.name)
    (hEndpoint : i.WellFormed) :
    Spec.issues
        { spec with integrations := before ++ i :: after } =
      withoutCodes Code.unanswered spec.issues := by
  let env := TypeEnv.ofSpec spec
  have hDuplicates := reports_duplicateIssues spec
  have hTyping := reports_typingIssues spec env
  have hConflicts := reports_conflictIssues spec env
  have hBoundaries := reports_boundaryIssues spec
  have hWiring := reports_wiringIssues spec
  have hStyle := reports_styleIssues spec
  have hStructure :=
    structureIssues_insert hPlace hAi hNew hEndpoint
  unfold Spec.issues
  simp only [withoutCodes_append]
  rw [← hStructure,
    hDuplicates.withoutCodes_eq_self (by decide),
    hTyping.withoutCodes_eq_self (by decide),
    hConflicts.withoutCodes_eq_self (by decide),
    hBoundaries.withoutCodes_eq_self (by decide),
    hWiring.withoutCodes_eq_self (by decide),
    hStyle.withoutCodes_eq_self (by decide)]
  rfl

/-
  An integration that can answer, put anywhere among those
  of other names, settles the warnings that none can. The
  issues but for these stay in their order, and so do the
  number of errors and all of the summary but for the number
  of integrations.
-/
theorem verify_insert_integration
    (hPlace : spec.integrations = before ++ after)
    (hAi : isAiCapable i = true)
    (hNew :
      ∀ other ∈ spec.integrations, other.name ≠ i.name)
    (hEndpoint : i.WellFormed) :
    let report := spec.verify
    let more := Spec.verify
      { spec with integrations := before ++ i :: after }
    more.issues =
        withoutCodes Code.unanswered report.issues ∧
      more.success = report.success ∧
      more.errorCount = report.errorCount ∧
      more.summary =
        { report.summary with
          integrations := report.summary.integrations + 1 } := by
  have hIssues := issues_insert hPlace hAi hNew hEndpoint
  have hErrors :
      countSeverity .error
          (withoutCodes Code.unanswered spec.issues) =
        countSeverity .error spec.issues := by
    apply (reports_issues spec).countSeverity_withoutCodes
    decide
  unfold Spec.verify Report.ofIssues
  simp only
  rw [hIssues, hErrors]
  refine ⟨rfl, rfl, rfl, ?_⟩
  unfold Spec.summary
  simp only [hPlace, List.length_append, List.length_cons]
  rfl

/- Two integrations that are no AI. -/
def mailIntegration : Integration :=
  ⟨"Mail", none, some "Send mail", ⟨"support", 6⟩⟩

def smsIntegration : Integration :=
  ⟨"Sms", none, some "Send messages", ⟨"support", 8⟩⟩

/- An integration that is one, as its name tells. -/
def claudeIntegration : Integration :=
  ⟨"Claude", none, some "AI evaluation", ⟨"support", 7⟩⟩

/- A flow and a rule that nothing answers. -/
def supportSpec : Spec where
  appName := "Support"
  entities := []
  screens := []
  flows :=
    [⟨"Sort tickets",
      [⟨1, "ai: classify", true, some "classify",
        ⟨"support", 3⟩⟩],
      ⟨"support", 2⟩⟩]
  rules :=
    [⟨"Escalate",
      some (.ai ⟨"text", "is it urgent?", "true"⟩),
      some "alert", ⟨"support", 4⟩⟩]
  integrations := [mailIntegration, smsIntegration]
  events := []

/- Both warnings are settled between the two. -/
theorem verify_insert_integration_supportSpec :
    let report := supportSpec.verify
    let more := Spec.verify
      { supportSpec with
        integrations := [mailIntegration] ++
          claudeIntegration :: [smsIntegration] }
    more.issues =
        withoutCodes Code.unanswered report.issues ∧
      more.success = report.success ∧
      more.errorCount = report.errorCount ∧
      more.summary =
        { report.summary with
          integrations := report.summary.integrations + 1 } := by
  have hPlace : supportSpec.integrations =
      [mailIntegration] ++ [smsIntegration] :=
    rfl
  have hAi : isAiCapable claudeIntegration = true := by
    decide +kernel
  have hNew : ∀ other ∈ supportSpec.integrations,
      other.name ≠ claudeIntegration.name := by
    decide
  have hEndpoint : claudeIntegration.WellFormed := by
    intro endpoint hSome
    cases hSome
  exact verify_insert_integration hPlace hAi hNew hEndpoint

end Blueprint
