import Blueprint.Proofs.Conflict.Pairs
import Blueprint.Proofs.Issue.Checks
import Blueprint.Proofs.Prose.Opposition

/-
  Conflicting conditions are reported exactly: every pair of
  rules is answered for by itself, and a pair of clauses is
  reported once when they exclude each other, and otherwise
  not at all.

  Main definitions:
    * `valueConflicts`
    * `pairConflicts`

  Main statements:
    * `valueConflicts_perm`
    * `pairConflicts_eq`
    * `valueConflicts_of_clauses`
-/

------------------------------------------------------------
-- Conflicts of Values
------------------------------------------------------------

namespace Blueprint

/- The issue tells of conflicting conditions. -/
def Issue.isValueConflict (i : Issue) : Bool :=
  i.code == Code.constraintConflictingConditions.id

/- The issues of a specification that tell so. -/
def valueConflicts
    (spec : Spec)
    (env : TypeEnv) : List Issue :=
  (conflictIssues spec env).filter Issue.isValueConflict

/- Those of two of its rules, as if there were no others. -/
def pairConflicts
    (spec : Spec)
    (env : TypeEnv)
    (p : Rule × Rule) : List Issue :=
  valueConflicts { spec with rules := [p.1, p.2] } env

/- A clash is found by comparing two demands. -/
theorem clash?_eq_some_iff
    {r s : Rule}
    {a? b? : Option Constraint}
    {i : Issue} :
    clash? r s a? b? = some i ↔
      ∃ a b finding,
        a? = some a ∧ b? = some b ∧
          conflictFinding? (sortedDescriptions r s).1
            (sortedDescriptions r s).2 a b = some finding ∧
              Issue.of finding s.location = i := by
  unfold clash?
  cases a? with
  | none => simp
  | some a =>
      cases b? with
      | none => simp
      | some b => simp

/- Conditions give conflicts of values. -/
theorem isValueConflict_of_valueClash?
    {names : List String}
    {r s : Rule}
    {i : Issue}
    (h : valueClash? names r s = some i) :
    i.isValueConflict = true := by
  rcases clash?_eq_some_iff.mp h with
    ⟨a, b, finding, hA, _, hFinding, rfl⟩
  rcases tellsOf_of_conflictFinding? hFinding with
    ⟨_, hTells⟩ | ⟨hKind, _⟩
  · simp [Issue.isValueConflict, Issue.of, hTells.code_eq]
  · exact absurd hKind (kind_of_conditionConstraint? hA)

/- Actions give no conflicts of values. -/
theorem isValueConflict_of_actionClash?
    {names : List String}
    {r s : Rule}
    {i : Issue}
    (h : actionClash? names r s = some i) :
    i.isValueConflict = false := by
  rcases clash?_eq_some_iff.mp h with
    ⟨a, b, finding, hA, _, hFinding, rfl⟩
  have hAction := kind_of_actionConstraint? hA
  rcases tellsOf_of_conflictFinding? hFinding with
    ⟨hKind, _⟩ | ⟨_, hTells⟩
  · rw [hAction] at hKind
    cases hKind
  · have hOther : (Code.constraintContradictoryActions.id ==
        Code.constraintConflictingConditions.id) = false := by
      decide
    simp only [Issue.isValueConflict, Issue.of,
      hTells.code_eq, hOther]

/- The conflicts of values of two rules come from conditions. -/
theorem filter_clashes
    (names : List String)
    (p : Rule × Rule) :
    (clashes names p).filter Issue.isValueConflict =
      (valueClash? names p.1 p.2).toList := by
  have hValues : (valueClash? names p.1 p.2).toList.filter
      Issue.isValueConflict =
        (valueClash? names p.1 p.2).toList := by
    rw [List.filter_eq_self]
    intro i hMem
    exact isValueConflict_of_valueClash?
      (Option.mem_toList.mp hMem)
  have hActions : (actionClash? names p.1 p.2).toList.filter
      Issue.isValueConflict = [] := by
    rw [List.filter_eq_nil_iff]
    intro i hMem hConflict
    rw [isValueConflict_of_actionClash?
      (Option.mem_toList.mp hMem)] at hConflict
    cases hConflict
  unfold clashes
  rw [List.filter_append, hValues, hActions,
    List.append_nil]

/- Overloaded fields are no conflicts of values. -/
theorem filter_overloadIssues
    (rules : List Rule)
    (cs : List Constraint) :
    (overloadIssues rules cs).filter Issue.isValueConflict =
      [] := by
  apply (reports_overloadIssues rules cs).filter_eq_nil
  · intro i hConflict
    exact beq_iff_eq.mp hConflict
  · decide

/- Every two rules answer for their own conflicts of values. -/
theorem valueConflicts_perm_valueClash?
    (spec : Spec)
    (env : TypeEnv) :
    (valueConflicts spec env).Perm
      ((pairsOf spec.rules).flatMap fun p =>
        (valueClash? env.entityNames p.1 p.2).toList) := by
  have hPairs := filter_conflictIssues_perm
    filter_overloadIssues spec env
  simp only [filter_clashes] at hPairs
  exact hPairs

/- Two rules alone have the conflict of their conditions. -/
theorem pairConflicts_eq
    (spec : Spec)
    (env : TypeEnv)
    (p : Rule × Rule) :
    pairConflicts spec env p =
      (valueClash? env.entityNames p.1 p.2).toList :=
  filter_conflictIssues_pair filter_overloadIssues spec
    (filter_clashes env.entityNames p)

/- The conflicts of values are those of each two rules. -/
theorem valueConflicts_perm
    (spec : Spec)
    (env : TypeEnv) :
    (valueConflicts spec env).Perm
      ((pairsOf spec.rules).flatMap
        (pairConflicts spec env)) := by
  have hPairs := valueConflicts_perm_valueClash? spec env
  have hSame : pairConflicts spec env = fun p =>
      (valueClash? env.entityNames p.1 p.2).toList := by
    funext p
    exact pairConflicts_eq spec env p
  rw [hSame]
  exact hPairs

end Blueprint

------------------------------------------------------------
-- Conflicts of Clauses
------------------------------------------------------------

namespace Blueprint

open Text

/-
  The issue of two rules whose conditions are clauses on the
  subject of `c`, with the values that it shows.
-/
def clauseIssue
    (r s : Rule)
    (c : Clause)
    (p : String × String) : Issue :=
  let (first, second) := sortedDescriptions r s
  let target := capitalized c.entity ++ "." ++
    String.ofList c.field
  .of
    (.warning (.constraintConflictingConditions first second
      target p.1 p.2))
    s.location

/- Two rules of a list are one of its pairs. -/
theorem mem_pairsOf_append
    (before between after : List Rule)
    (r s : Rule) :
    (r, s) ∈
      pairsOf (before ++ r :: (between ++ s :: after)) := by
  induction before with
  | nil =>
      rw [List.nil_append, pairsOf, List.mem_append]
      left
      simp
  | cons first before ih =>
      rw [List.cons_append, pairsOf, List.mem_append]
      right
      exact ih

/-
  Two clauses on one field of one entity clash when their
  values are opposite.
-/
theorem valueClash?_of_clauses
    (names : List String)
    {r s : Rule}
    {c d : Clause}
    (hR : r.condition = some (.plain c.text))
    (hS : s.condition = some (.plain d.text))
    (hC : c.WellFormed)
    (hD : d.WellFormed)
    (hEntity :
      capitalized c.entity = capitalized d.entity)
    (hField : c.field = d.field) :
    valueClash? names r s =
      (oppositeValues? c.expected d.expected).map
        (clauseIssue r s c) := by
  unfold valueClash?
  rw [Clause.conditionConstraint?_text hC names 0 hR,
    Clause.conditionConstraint?_text hD names 0 hS]
  unfold clash? conflictFinding? conflictingValues?
    Constraint.target?
  simp only [Option.bind_some, hEntity, hField]
  cases oppositeValues? c.expected d.expected with
  | none => rfl
  | some p =>
      unfold clauseIssue
      rw [hEntity, hField]
      rfl

/-
  Two rules whose conditions are clauses on one field are
  reported once if the clauses exclude each other, with the
  values in the order of the opposition, and else not at
  all. What is reported about other rules is apart from it.
-/
theorem valueConflicts_of_clauses
    {spec : Spec}
    (env : TypeEnv)
    {before between after : List Rule}
    {r s : Rule}
    {c d : Clause}
    (hRules :
      spec.rules = before ++ r :: (between ++ s :: after))
    (hR : r.condition = some (.plain c.text))
    (hS : s.condition = some (.plain d.text))
    (hC : c.WellFormed)
    (hD : d.WellFormed)
    (hEntity :
      capitalized c.entity = capitalized d.entity)
    (hField : c.field = d.field) :
    (∃ others,
      (pairsOf spec.rules).Perm ((r, s) :: others) ∧
        (valueConflicts spec env).Perm
          (pairConflicts spec env (r, s) ++
            others.flatMap (pairConflicts spec env))) ∧
      (∀ p, c.Opposes d p →
        pairConflicts spec env (r, s) =
          [clauseIssue r s c p]) ∧
        ((∀ p, ¬ c.Opposes d p) →
          pairConflicts spec env (r, s) = []) := by
  have hPair := pairConflicts_eq spec env (r, s)
  rw [valueClash?_of_clauses _ hR hS hC hD hEntity hField]
    at hPair
  refine ⟨?_, ?_, ?_⟩
  · have hMem :=
      mem_pairsOf_append before between after r s
    rw [← hRules] at hMem
    rcases List.append_of_mem hMem with
      ⟨first, second, hSplit⟩
    have hPairs : (pairsOf spec.rules).Perm
        ((r, s) :: (first ++ second)) := by
      rw [hSplit]
      exact List.perm_middle
    refine ⟨first ++ second, hPairs, ?_⟩
    rw [← List.flatMap_cons]
    exact (valueConflicts_perm spec env).trans
      (hPairs.flatMap_right _)
  · intro p hOpposes
    have hValues :=
      (Clause.oppositeValues?_expected_iff hC hD).mpr hOpposes
    rw [hPair, hValues]
    rfl
  · intro hNone
    have hValues :
        oppositeValues? c.expected d.expected = none := by
      rw [Option.eq_none_iff_forall_ne_some]
      intro p hSome
      exact hNone p
        ((Clause.oppositeValues?_expected_iff hC hD).mp hSome)
    rw [hPair, hValues]
    rfl

/- A ticket is expected to be open. -/
def openClause : Clause :=
  ⟨"ticket".toList, "state".toList, .is, "open".toList,
    false⟩

/- A ticket is expected to be anything but open. -/
def shutClause : Clause :=
  ⟨"Ticket".toList, "state".toList, .notEqual,
    "Open".toList, true⟩

/- Two rules on the state of a ticket. -/
def ticketSpec : Spec where
  appName := "Desk"
  entities := []
  screens := []
  flows := []
  rules :=
    [⟨"Remind", some (.plain openClause.text), none,
      ⟨"desk", 2⟩⟩,
     ⟨"Archive", some (.plain shutClause.text), none,
      ⟨"desk", 4⟩⟩]
  integrations := []
  events := []

/- The two rules are reported, the open state first. -/
theorem valueConflicts_of_clauses_ticketSpec :
    pairConflicts ticketSpec (TypeEnv.ofSpec ticketSpec)
        (ticketSpec.rules[0], ticketSpec.rules[1]) =
      [clauseIssue ticketSpec.rules[0] ticketSpec.rules[1]
        openClause ("open", "not open")] := by
  have hOpposes :
      openClause.Opposes shutClause ("open", "not open") :=
    .denial (by decide) (by decide)
  have hRules : ticketSpec.rules =
      [] ++ ticketSpec.rules[0] ::
        ([] ++ ticketSpec.rules[1] :: []) := rfl
  have hOpen : openClause.WellFormed := by
    decide +kernel
  have hShut : shutClause.WellFormed := by
    decide +kernel
  exact (valueConflicts_of_clauses
    (TypeEnv.ofSpec ticketSpec) hRules rfl rfl hOpen hShut
    (by decide) (by decide)).2.1 _ hOpposes

end Blueprint
