import Blueprint.Proofs.Issue.Checks

/-
  The issues of some codes. Every code belongs to one check,
  so that among all issues of a specification those of a
  code are found in the issues of its check alone.

  Main definitions:
    * `withCodes`
    * `Spec.checks`

  Main statements:
    * `withCodes_flatMap_of_apart`
    * `withCodes_flatMap_eq_filterMap`
    * `Reports.withCodes_eq_self`, `Reports.withCodes_eq_nil`
    * `withCodes_issues`
-/

------------------------------------------------------------
-- Issues with Codes
------------------------------------------------------------

namespace Blueprint

/- The issues of a list that have one of the codes. -/
def withCodes
    (codes : List Code)
    (issues : List Issue) : List Issue :=
  issues.filter fun i => (codes.map Code.id).contains i.code

variable {α : Type}
variable {codes others : List Code}
variable {issues : List Issue}

@[simp] theorem withCodes_nil : withCodes codes [] = [] :=
  rfl

/- An issue is selected by the code of its finding. -/
@[simp] theorem withCodes_cons_of
    (finding : Finding)
    (location : Location) :
    withCodes codes (.of finding location :: issues) =
      if finding.code ∈ codes then
        .of finding location :: withCodes codes issues
      else
        withCodes codes issues := by
  have hSelected : (codes.map Code.id).contains
      (Issue.of finding location).code = true ↔
        finding.code ∈ codes := by
    simp [Issue.of, Code.id_injective.eq_iff]
  unfold withCodes
  simp only [List.filter_cons, hSelected]

theorem withCodes_append
    (first second : List Issue) :
    withCodes codes (first ++ second) =
      withCodes codes first ++ withCodes codes second :=
  List.filter_append ..

theorem withCodes_flatMap
    (xs : List α)
    (f : α → List Issue) :
    withCodes codes (xs.flatMap f) =
      xs.flatMap fun x => withCodes codes (f x) :=
  List.filter_flatMap ..

/- Findings of other codes are not selected. -/
theorem withCodes_map_of_eq_nil
    {findings : List Finding}
    {location : Location}
    (h : ∀ finding ∈ findings, finding.code ∉ codes) :
    withCodes codes (findings.map (.of · location)) = [] := by
  induction findings with
  | nil => rfl
  | cons finding findings ih =>
      rw [List.forall_mem_cons] at h
      rw [List.map_cons, withCodes_cons_of, if_neg h.1,
        ih h.2]

/- The items whose findings have codes apart tell nothing. -/
theorem withCodes_flatMap_of_apart
    {own : List Code}
    {items : List α}
    {findings : α → List Finding}
    {location : α → Location}
    (hOwn : ∀ x, ∀ finding ∈ findings x, finding.TellsOf own)
    (hApart : ∀ code ∈ own, code ∉ codes) :
    withCodes codes (items.flatMap fun x =>
      (findings x).map (.of · (location x))) = [] := by
  rw [withCodes_flatMap, List.flatMap_eq_nil_iff]
  intro x _
  apply withCodes_map_of_eq_nil
  intro finding hMem
  exact hApart finding.code (hOwn x finding hMem).1

/-
  Where the selected issues of every item are at most one,
  those of a list are found item by item.
-/
theorem withCodes_flatMap_eq_filterMap
    {f : α → List Issue}
    {g : α → Option Issue}
    {xs : List α}
    (hItem : ∀ x, withCodes codes (f x) = (g x).toList) :
    withCodes codes (xs.flatMap f) = xs.filterMap g := by
  rw [withCodes_flatMap, List.filterMap_eq_flatMap_toList]
  exact List.flatMap_congr fun x _ => hItem x

/- Issues of the codes are all selected. -/
theorem Reports.withCodes_eq_self
    (h : Reports codes issues)
    (hAll : codes ⊆ others) :
    withCodes others issues = issues := by
  unfold withCodes
  rw [List.filter_eq_self]
  intro i hMem
  rcases h i hMem with ⟨c, hCode, hId, _⟩
  rw [hId]
  simpa [Code.id_injective.eq_iff] using hAll hCode

/- Selected issues are as severe as the codes say. -/
theorem Reports.severity_of_mem_withCodes
    {severity : Severity}
    (h : Reports others issues)
    (hCodes : ∀ c ∈ codes, c.severity = severity) :
    ∀ i ∈ withCodes codes issues, i.severity = severity := by
  intro i hMem
  rcases List.mem_filter.mp hMem with ⟨hIssue, hSelected⟩
  rcases h i hIssue with ⟨c, _, hId, hSeverity⟩
  rw [hSeverity]
  apply hCodes
  simpa [hId, Code.id_injective.eq_iff] using hSelected

/- Issues of other codes are not. -/
theorem Reports.withCodes_eq_nil
    (h : Reports codes issues)
    (hOther : ∀ c ∈ codes, c ∉ others) :
    withCodes others issues = [] := by
  unfold withCodes
  rw [List.filter_eq_nil_iff]
  intro i hMem
  rcases h i hMem with ⟨c, hCode, hId, _⟩
  rw [hId]
  simpa [Code.id_injective.eq_iff] using hOther c hCode

end Blueprint

------------------------------------------------------------
-- Checks
------------------------------------------------------------

namespace Blueprint

namespace Spec

/- The checks of a specification, each with its codes. -/
def checks (spec : Spec) : List (List Code × List Issue) :=
  let table := SymbolTable.ofSpec spec
  let env := TypeEnv.ofSpec spec
  [(Code.duplicates, duplicateIssues spec),
   (Code.entities, spec.entities.flatMap (entityIssues table)),
   (Code.screens, spec.screens.flatMap (screenIssues table)),
   (Code.flows false,
     spec.flows.flatMap (flowIssues spec.hasAi)),
   (Code.rules false,
     spec.rules.flatMap (ruleIssues spec.hasAi)),
   (Code.integrations, integrationIssues spec.integrations),
   (Code.events, eventIssues spec.events),
   (Code.typing, typingIssues spec env),
   (Code.conflicts, conflictIssues spec env),
   (Code.boundaries, boundaryIssues spec),
   (Code.wiring, wiringIssues spec),
   (Code.style, styleIssues spec)]

/- The checks find all issues. -/
theorem flatMap_checks (spec : Spec) :
    spec.checks.flatMap Prod.snd = spec.issues := by
  simp [checks, issues, structureIssues]

/- Every check reports its codes only. -/
theorem reports_of_mem_checks
    {spec : Spec}
    {own : List Code}
    {part : List Issue}
    (hCheck : (own, part) ∈ spec.checks) :
    Reports own part := by
  have hFlows : ∀ f, Reports (Code.flows false)
      (flowIssues spec.hasAi f) := by
    intro f
    apply (reports_flowIssues spec.hasAi f).mono
    cases spec.hasAi <;> decide
  have hRules : ∀ r, Reports (Code.rules false)
      (ruleIssues spec.hasAi r) := by
    intro r
    apply (reports_ruleIssues spec.hasAi r).mono
    cases spec.hasAi <;> decide
  revert own part
  suffices ∀ p ∈ spec.checks, Reports p.1 p.2 by
    intro own part hCheck
    exact this _ hCheck
  simp only [checks, List.forall_mem_cons,
    reports_flatMap_iff]
  exact ⟨reports_duplicateIssues spec,
    fun e _ => reports_entityIssues _ e,
    fun s _ => reports_screenIssues _ s,
    fun f _ => hFlows f,
    fun r _ => hRules r,
    reports_integrationIssues _,
    reports_eventIssues _,
    reports_typingIssues spec _,
    reports_conflictIssues spec _,
    reports_boundaryIssues spec,
    reports_wiringIssues spec,
    reports_styleIssues spec,
    List.forall_mem_nil _⟩

/- No code belongs to two checks. -/
theorem checks_pairwise_apart (spec : Spec) :
    (spec.checks.map Prod.fst).Pairwise
      fun own other => ∀ c ∈ own, c ∉ other := by
  change List.Pairwise
    (fun own other : List Code => ∀ c ∈ own, c ∉ other)
    [Code.duplicates, Code.entities, Code.screens,
     Code.flows false, Code.rules false, Code.integrations,
     Code.events, Code.typing, Code.conflicts,
     Code.boundaries, Code.wiring, Code.style]
  decide +kernel

end Spec

/- The issues of codes of a check are those that it finds. -/
theorem withCodes_issues
    {spec : Spec}
    {own codes : List Code}
    {part : List Issue}
    (hCheck : (own, part) ∈ spec.checks)
    (hOwn : codes ⊆ own) :
    withCodes codes spec.issues = withCodes codes part := by
  rcases List.append_of_mem hCheck with
    ⟨before, after, hChecks⟩
  have hApart := spec.checks_pairwise_apart
  rw [hChecks, List.map_append, List.map_cons,
    List.pairwise_append, List.pairwise_cons] at hApart
  rcases hApart with ⟨_, ⟨hAfter, _⟩, hBefore⟩
  have hOther : ∀ p ∈ before ++ after,
      withCodes codes p.2 = [] := by
    intro p hMem
    have hReports : Reports p.1 p.2 := by
      apply Spec.reports_of_mem_checks
      rw [hChecks, List.perm_middle.mem_iff]
      exact List.mem_cons_of_mem _ hMem
    apply hReports.withCodes_eq_nil
    intro c hCode hSelected
    rcases List.mem_append.mp hMem with hMem | hMem
    · exact hBefore _ (List.mem_map_of_mem hMem) _
        List.mem_cons_self c hCode (hOwn hSelected)
    · exact hAfter _ (List.mem_map_of_mem hMem) c
        (hOwn hSelected) hCode
  rw [List.forall_mem_append] at hOther
  rw [← spec.flatMap_checks, hChecks, List.flatMap_append,
    List.flatMap_cons, withCodes_append, withCodes_append,
    withCodes_flatMap, withCodes_flatMap,
    List.flatMap_eq_nil_iff.mpr hOther.1,
    List.flatMap_eq_nil_iff.mpr hOther.2, List.nil_append,
    List.append_nil]

end Blueprint
