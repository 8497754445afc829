import Blueprint.Proofs.Issue.Checks
import Blueprint.Proofs.Issue.Severity

/-
  Lists of issues without errors, and the checks that never
  report an error: conflicts, boundaries, wiring and style.

  Main definition:
    * `ErrorFree`

  Main statements:
    * `success_ofIssues_iff`
    * `errorFree_of_reports`
    * `errorFree_conflictIssues`
    * `errorFree_boundaryIssues`
    * `errorFree_wiringIssues`
    * `errorFree_styleIssues`
-/

------------------------------------------------------------
-- Lists without Errors
------------------------------------------------------------

namespace Blueprint

/- No issue of a list is an error. -/
def ErrorFree (issues : List Issue) : Prop :=
  ∀ i ∈ issues, i.severity ≠ .error

@[simp] theorem errorFree_nil : ErrorFree [] :=
  lacks_nil

@[simp] theorem errorFree_cons_iff
    {i : Issue}
    {issues : List Issue} :
    ErrorFree (i :: issues) ↔
      i.severity ≠ .error ∧ ErrorFree issues :=
  lacks_cons_iff

@[simp] theorem errorFree_append_iff
    {first second : List Issue} :
    ErrorFree (first ++ second) ↔
      ErrorFree first ∧ ErrorFree second :=
  lacks_append_iff

variable {α : Type}

@[simp] theorem errorFree_flatMap_iff
    {xs : List α}
    {f : α → List Issue} :
    ErrorFree (xs.flatMap f) ↔ ∀ x ∈ xs, ErrorFree (f x) :=
  lacks_flatMap_iff

@[simp] theorem errorFree_map_iff
    {xs : List α}
    {f : α → Issue} :
    ErrorFree (xs.map f) ↔
      ∀ x ∈ xs, (f x).severity ≠ .error :=
  lacks_map_iff

@[simp] theorem errorFree_filterMap_iff
    {xs : List α}
    {f : α → Option Issue} :
    ErrorFree (xs.filterMap f) ↔
      ∀ x ∈ xs, ∀ i, f x = some i → i.severity ≠ .error :=
  lacks_filterMap_iff

/- A report is a success when none of its issues is an error. -/
theorem success_ofIssues_iff
    (summary : Summary)
    (issues : List Issue) :
    (Report.ofIssues summary issues).success = true ↔
      ErrorFree issues := by
  unfold Report.ofIssues
  rw [beq_iff_eq, countSeverity_eq_zero_iff]
  rfl

/- Codes that are no errors are reported without errors. -/
theorem errorFree_of_reports
    {codes : List Code}
    {issues : List Issue}
    (h : Reports codes issues)
    (hCodes : ∀ c ∈ codes, c.severity ≠ .error) :
    ErrorFree issues :=
  h.lacks hCodes

end Blueprint

------------------------------------------------------------
-- Checks without Errors
------------------------------------------------------------

namespace Blueprint

/- Conflicts of rules are never errors. -/
theorem errorFree_conflictIssues
    (spec : Spec)
    (env : TypeEnv) :
    ErrorFree (conflictIssues spec env) := by
  apply errorFree_of_reports (reports_conflictIssues spec env)
  decide

/- Notes on boundaries are never errors. -/
theorem errorFree_boundaryIssues (spec : Spec) :
    ErrorFree (boundaryIssues spec) := by
  apply errorFree_of_reports (reports_boundaryIssues spec)
  decide

/- No finding about the wiring is an error. -/
theorem errorFree_wiringIssues (spec : Spec) :
    ErrorFree (wiringIssues spec) := by
  apply errorFree_of_reports (reports_wiringIssues spec)
  decide

/- No finding about style is an error. -/
theorem errorFree_styleIssues (spec : Spec) :
    ErrorFree (styleIssues spec) := by
  apply errorFree_of_reports (reports_styleIssues spec)
  decide

/- Every finding about a field on a form is less than an error. -/
theorem errorFree_formIssues
    (env : TypeEnv)
    (s : Screen) :
    ErrorFree (formIssues env s) := by
  apply errorFree_of_reports (reports_formIssues env s)
  decide

end Blueprint
