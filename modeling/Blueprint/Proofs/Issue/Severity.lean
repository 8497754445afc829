import Blueprint.Proofs.Issue.Codes
import Blueprint.Report

/-
  Lists of issues without a severity. A check whose codes
  are all of other severities never reports one of it.

  Main definition:
    * `Lacks`

  Main statements:
    * `countSeverity_eq_zero_iff`
    * `Reports.lacks`
    * `Reports.lacks_iff_eq_nil`
    * `Reports.countSeverity_withoutCodes`
-/

------------------------------------------------------------
-- Lists without a Severity
------------------------------------------------------------

namespace Blueprint

/- No issue of a list has the severity. -/
def Lacks
    (severity : Severity)
    (issues : List Issue) : Prop :=
  ∀ i ∈ issues, i.severity ≠ severity

variable {α : Type}
variable {severity : Severity}

@[simp] theorem Issue.severity_of
    (finding : Finding)
    (location : Location) :
    (Issue.of finding location).severity = finding.severity :=
  rfl

@[simp] theorem lacks_nil : Lacks severity [] := by
  simp [Lacks]

@[simp] theorem lacks_cons_iff
    {i : Issue}
    {issues : List Issue} :
    Lacks severity (i :: issues) ↔
      i.severity ≠ severity ∧ Lacks severity issues :=
  List.forall_mem_cons

@[simp] theorem lacks_append_iff
    {first second : List Issue} :
    Lacks severity (first ++ second) ↔
      Lacks severity first ∧ Lacks severity second :=
  List.forall_mem_append

@[simp] theorem lacks_flatMap_iff
    {xs : List α}
    {f : α → List Issue} :
    Lacks severity (xs.flatMap f) ↔
      ∀ x ∈ xs, Lacks severity (f x) :=
  List.forall_mem_flatMap

@[simp] theorem lacks_map_iff
    {xs : List α}
    {f : α → Issue} :
    Lacks severity (xs.map f) ↔
      ∀ x ∈ xs, (f x).severity ≠ severity :=
  List.forall_mem_map

@[simp] theorem lacks_filterMap_iff
    {xs : List α}
    {f : α → Option Issue} :
    Lacks severity (xs.filterMap f) ↔
      ∀ x ∈ xs, ∀ i, f x = some i →
        i.severity ≠ severity := by
  constructor
  · intro h x hMem i hSome
    exact h i (List.mem_filterMap.mpr ⟨x, hMem, hSome⟩)
  · intro h i hMem
    rcases List.mem_filterMap.mp hMem with ⟨x, hX, hSome⟩
    exact h x hX i hSome

/- None is counted exactly when there is none. -/
theorem countSeverity_eq_zero_iff
    {issues : List Issue} :
    countSeverity severity issues = 0 ↔
      Lacks severity issues := by
  unfold countSeverity Lacks
  rw [List.countP_eq_zero]
  simp

/- Issues of other codes do not have the severity. -/
theorem Reports.lacks
    {codes : List Code}
    {issues : List Issue}
    (h : Reports codes issues)
    (hCodes : ∀ c ∈ codes, c.severity ≠ severity) :
    Lacks severity issues := by
  intro i hMem
  rcases h i hMem with ⟨c, hCode, _, hSeverity⟩
  rw [hSeverity]
  exact hCodes c hCode

/- Issues of codes of one severity lack it if there are none. -/
theorem Reports.lacks_iff_eq_nil
    {codes : List Code}
    {issues : List Issue}
    (h : Reports codes issues)
    (hCodes : ∀ c ∈ codes, c.severity = severity) :
    Lacks severity issues ↔ issues = [] := by
  constructor
  · intro hLacks
    rw [List.eq_nil_iff_forall_not_mem]
    intro i hMem
    rcases h i hMem with ⟨c, hCode, _, hSeverity⟩
    apply hLacks i hMem
    rw [hSeverity]
    exact hCodes c hCode
  · rintro rfl
    exact lacks_nil

/- Without codes of other severities, as many are counted. -/
theorem Reports.countSeverity_withoutCodes
    {codes others : List Code}
    {issues : List Issue}
    (h : Reports codes issues)
    (hOther : ∀ c ∈ others, c.severity ≠ severity) :
    countSeverity severity (withoutCodes others issues) =
      countSeverity severity issues := by
  unfold countSeverity withoutCodes
  rw [List.countP_filter]
  apply List.countP_congr
  intro i hMem
  rcases h i hMem with ⟨c, _, hId, hSeverity⟩
  have hKept : c.severity = severity → c ∉ others := by
    intro hSame hGone
    exact hOther c hGone hSame
  simpa [hId, hSeverity, Code.id_injective.eq_iff] using hKept

end Blueprint
