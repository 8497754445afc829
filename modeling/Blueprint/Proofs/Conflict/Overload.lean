import Blueprint.Proofs.Conflict.Pairs
import Blueprint.Proofs.Declared

/-
  Overloaded fields: what is reported depends only on how
  often each field is looked at, not on the order of the
  rules that do so.

  Main definitions:
    * `Finding.content`, `Issue.content`
    * `countedTargets`

  Main statement:
    * `content_overloadIssues`
-/

------------------------------------------------------------
-- What Issues Say
------------------------------------------------------------

namespace Blueprint

/- What a finding says. -/
def Finding.content
    (f : Finding) :
    Severity × String × String × Option String :=
  (f.severity, f.code.id, f.message, f.suggestion?)

/- What an issue says, wherever it stands. -/
def Issue.content
    (i : Issue) :
    Severity × String × String × Option String :=
  (i.severity, i.code, i.message, i.suggestion)

/- The place of an issue is no part of what it says. -/
theorem Issue.content_of
    (finding : Finding)
    (location : Location) :
    (Issue.of finding location).content = finding.content :=
  rfl

end Blueprint

------------------------------------------------------------
-- Counted Targets
------------------------------------------------------------

namespace Blueprint

/- The targets of constraints that count. -/
def targetsOf (cs : List Constraint) : List String :=
  (cs.filterMap countedTarget?).map Prod.fst

/- The targets of a rule, at most one. -/
def countedTargets
    (names : List String)
    (r : Rule) : List String :=
  targetsOf (constraintsOfRule names 0 r)

/- Targets are found constraint by constraint. -/
theorem targetsOf_append (first second : List Constraint) :
    targetsOf (first ++ second) =
      targetsOf first ++ targetsOf second := by
  unfold targetsOf
  rw [List.filterMap_append, List.map_append]

/- The place of a demand does not change its target. -/
theorem targetsOf_movedTo
    (c? : Option Constraint)
    (index : Nat) :
    targetsOf (c?.map (·.movedTo index)).toList =
      targetsOf c?.toList := by
  cases c? with
  | none => rfl
  | some c =>
      rcases c with ⟨kind, entity, field, _, _, _⟩
      cases kind <;> cases entity <;> cases field <;> rfl

/- The targets of rules are those of each of them. -/
theorem targetsOf_constraintsFrom
    (names : List String)
    (index : Nat)
    (rules : List Rule) :
    targetsOf (constraintsFrom names index rules) =
      rules.flatMap (countedTargets names) := by
  induction rules generalizing index with
  | nil => rfl
  | cons r rules ih =>
      have hFirst :
          targetsOf (constraintsOfRule names index r) =
            countedTargets names r := by
        unfold countedTargets constraintsOfRule
        rw [conditionConstraint?_eq_map_movedTo,
          actionConstraint?_eq_map_movedTo,
          targetsOf_append, targetsOf_append,
          targetsOf_movedTo, targetsOf_movedTo]
      rw [constraintsFrom, targetsOf_append, hFirst,
        ih (index + 1), List.flatMap_cons]

/- The rule of a constraint is one of the rules. -/
theorem exists_rule_of_mem_constraintsFrom
    {names : List String}
    {rules later : List Rule}
    {k : Nat}
    {c : Constraint}
    (hLater : StandFrom rules k later)
    (h : c ∈ constraintsFrom names k later) :
    ∃ r, rules[c.ruleIndex]? = some r := by
  induction later generalizing k with
  | nil => cases h
  | cons r later ih =>
      rcases List.mem_append.mp h with hHere | hRest
      · have hIndex := ruleIndex_of_mem_constraintsOfRule hHere
        rw [hIndex]
        exact ⟨r, hLater.head⟩
      · exact ih hLater.tail hRest

end Blueprint

------------------------------------------------------------
-- Overloaded Fields
------------------------------------------------------------

namespace Blueprint

variable {rules : List Rule}

/- A counted target is told with its own constraint. -/
theorem constraint_of_countedTarget?
    {c : Constraint}
    {p : String × Constraint}
    (h : countedTarget? c = some p) :
    p.2 = c := by
  unfold countedTarget? at h
  split at h
  · cases h
  · cases h
  · rcases Option.map_eq_some_iff.mp h with ⟨_, _, rfl⟩
    rfl

/- What is said about a target among all targets. -/
def overloadContent?
    (targets : List String)
    (target : String) :
    Option (Severity × String × String × Option String) :=
  if overloadThreshold < targets.count target then
    some (Finding.info (.constraintFieldOverloaded target
      (targets.count target))).content
  else
    none

/- The issue of a target says how often it is looked at. -/
theorem content_overloadIssue?
    {counted : List (String × Constraint)}
    (hRules : ∀ p ∈ counted,
      ∃ r, rules[p.2.ruleIndex]? = some r)
    (target : String) :
    (overloadIssue? rules counted target).map
        Issue.content =
      overloadContent? (counted.map Prod.fst) target := by
  have hCount :
      (counted.filter fun p => p.1 == target).length =
        (counted.map Prod.fst).count target := by
    rw [List.count, List.countP_map, List.countP_eq_length_filter]
    rfl
  unfold overloadIssue? overloadContent?
  simp only [← hCount]
  by_cases hMany : overloadThreshold <
      (counted.filter fun p => p.1 == target).length
  · rw [if_pos hMany, if_pos hMany]
    cases hGroup : counted.filter fun p => p.1 == target with
    | nil =>
        rw [hGroup] at hMany
        cases hMany
    | cons p group =>
        have hMem : p ∈ counted := by
          have hFirst : p ∈ counted.filter
              fun p => p.1 == target := by
            rw [hGroup]
            exact List.mem_cons_self
          exact (List.mem_filter.mp hFirst).1
        rcases hRules p hMem with ⟨r, hRule⟩
        simp [hRule, Issue.content_of]
  · rw [if_neg hMany, if_neg hMany]
    rfl

/- The targets of constraints in order, each of them once. -/
def sortedTargets
    (counted : List (String × Constraint)) : List String :=
  sortNames ((firsts Prod.fst counted).map Prod.fst)

/- The same targets are sorted alike, however often told. -/
theorem sortedTargets_eq
    {counted others : List (String × Constraint)}
    (h : (counted.map Prod.fst).Perm
      (others.map Prod.fst)) :
    sortedTargets counted = sortedTargets others := by
  have hMem : ∀ (cs : List (String × Constraint)) target,
      target ∈ (firsts Prod.fst cs).map Prod.fst ↔
        target ∈ cs.map Prod.fst := by
    intro cs target
    rw [mem_map_firsts_iff, List.mem_map]
  apply sortNames_eq_of_perm
  rw [List.perm_ext_iff_of_nodup (nodup_map_firsts _ _)
    (nodup_map_firsts _ _)]
  intro target
  rw [hMem, hMem, h.mem_iff]

/- All that is said about the targets of constraints. -/
theorem map_content_overloadIssues
    {cs : List Constraint}
    (hRules : ∀ c ∈ cs, ∃ r, rules[c.ruleIndex]? = some r) :
    (overloadIssues rules cs).map Issue.content =
      (sortedTargets (cs.filterMap countedTarget?)).filterMap
        (overloadContent? (targetsOf cs)) := by
  have hCounted : ∀ p ∈ cs.filterMap countedTarget?,
      ∃ r, rules[p.2.ruleIndex]? = some r := by
    intro p hMem
    rcases List.mem_filterMap.mp hMem with ⟨c, hC, hPair⟩
    rw [constraint_of_countedTarget? hPair]
    exact hRules c hC
  unfold overloadIssues
  rw [List.map_filterMap]
  apply List.filterMap_congr
  intro target _
  exact content_overloadIssue? hCounted target

/- Rules in another order overload the same fields. -/
theorem content_overloadIssues
    (spec : Spec)
    (names : List String)
    {rules : List Rule}
    (hRules : rules.Perm spec.rules) :
    (overloadIssues rules
      (constraints { spec with rules := rules } names)).map
        Issue.content =
      (overloadIssues spec.rules
        (constraints spec names)).map Issue.content := by
  have hPlaces : ∀ later : List Rule,
      ∀ c ∈ constraintsFrom names 0 later,
        ∃ r, later[c.ruleIndex]? = some r := by
    intro later c hMem
    exact exists_rule_of_mem_constraintsFrom
      (standFrom_zero later) hMem
  have hTargets :
      (targetsOf (constraintsFrom names 0 rules)).Perm
        (targetsOf (constraintsFrom names 0 spec.rules)) := by
    rw [targetsOf_constraintsFrom, targetsOf_constraintsFrom]
    exact List.Perm.flatMap_right _ hRules
  unfold constraints
  rw [map_content_overloadIssues (hPlaces rules),
    map_content_overloadIssues (hPlaces spec.rules),
    sortedTargets_eq hTargets]
  apply List.filterMap_congr
  intro target _
  unfold overloadContent?
  rw [hTargets.count_eq]

end Blueprint
