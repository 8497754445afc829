import Blueprint.Proofs.Conflict.Overload
import Blueprint.Proofs.Prose.Values

/-
  The conflicts of rules do not depend on the order of the
  rules, and every conflict is worded the same way,
  whichever of its two rules comes first.

  Main definition:
    * `Constraint.HasTrimmedValue`

  Main statements:
    * `pairIssue?_comm`
    * `content_clashes_comm`
    * `conflictIssues_perm`
-/

------------------------------------------------------------
-- Findings of Two Constraints
------------------------------------------------------------

namespace Blueprint

open Text

/- The values that a constraint compares with are trimmed. -/
def Constraint.HasTrimmedValue (c : Constraint) : Prop :=
  c.kind = .fieldValue →
    ∀ value, c.condition = some value →
      trim value.toList = value.toList

/- The condition of a rule compares with a trimmed value. -/
theorem hasTrimmedValue_of_conditionConstraint?
    {names : List String}
    {index : Nat}
    {r : Rule}
    {c : Constraint}
    (h : conditionConstraint? names index r = some c) :
    c.HasTrimmedValue := by
  rcases Option.map_eq_some_iff.mp h with
    ⟨⟨kind, text⟩, hDemand, rfl⟩
  intro hKind value hValue
  cases hValue
  unfold conditionDemand? at hDemand
  split at hDemand
  · rcases Option.map_eq_some_iff.mp hDemand with
      ⟨comparison, hText, hPair⟩
    cases hPair
    exact Comparison.trim_value_of_ofText? hText
  · cases hDemand
    cases hKind
  · cases hDemand

/- The action of a rule compares with no value. -/
theorem hasTrimmedValue_of_actionConstraint?
    {names : List String}
    {index : Nat}
    {r : Rule}
    {c : Constraint}
    (h : actionConstraint? names index r = some c) :
    c.HasTrimmedValue := by
  intro hKind
  rw [kind_of_actionConstraint? h] at hKind
  cases hKind

/- Constraints on one subject have one target. -/
theorem target?_eq_of_same_subject
    {a b : Constraint}
    (hEntity : a.entity = b.entity)
    (hField : a.field = b.field) :
    a.target? = b.target? := by
  unfold Constraint.target?
  rw [hEntity, hField]

/- Conditions on different subjects do not conflict. -/
theorem conflictingValues?_eq_none
    {a b : Constraint}
    (h : ¬ (a.entity = b.entity ∧ a.field = b.field)) :
    conflictingValues? a b = none := by
  unfold conflictingValues?
  rw [if_neg]
  simp only [Bool.and_eq_true, decide_eq_true_eq]
  rintro ⟨⟨_, hEntity⟩, hField⟩
  exact h ⟨hEntity, hField⟩

/- Actions on different entities do not conflict. -/
theorem contradictoryVerbs?_eq_none
    {a b : Constraint}
    (h : a.entity ≠ b.entity) :
    contradictoryVerbs? a b = none := by
  unfold contradictoryVerbs?
  rw [if_neg]
  simp only [Bool.and_eq_true, decide_eq_true_eq]
  rintro ⟨_, hEntity⟩
  exact h hEntity

/- Two conditions expect the same values in either order. -/
theorem conflictingValues?_comm
    {a b : Constraint}
    (hA : ∀ value, a.condition = some value →
      trim value.toList = value.toList)
    (hB : ∀ value, b.condition = some value →
      trim value.toList = value.toList) :
    conflictingValues? a b = conflictingValues? b a := by
  by_cases hSame : a.entity = b.entity ∧ a.field = b.field
  · unfold conflictingValues?
    rw [hSame.1, hSame.2]
    cases hX : a.condition with
    | none => cases b.condition <;> rfl
    | some x =>
        cases hY : b.condition with
        | none => rfl
        | some y =>
            simp only
            rw [oppositeValues?_comm (hA x hX) (hB y hY)]
  · have hOther :
        ¬ (b.entity = a.entity ∧ b.field = a.field) := by
      rintro ⟨hEntity, hField⟩
      exact hSame ⟨hEntity.symm, hField.symm⟩
    rw [conflictingValues?_eq_none hSame,
      conflictingValues?_eq_none hOther]

/- Two actions contradict each other in either order. -/
theorem contradictoryVerbs?_comm
    (a b : Constraint) :
    contradictoryVerbs? a b = contradictoryVerbs? b a := by
  by_cases hEntity : a.entity = b.entity
  · unfold contradictoryVerbs?
    rw [hEntity]
    cases a.action with
    | none => cases b.action <;> rfl
    | some x =>
        cases b.action with
        | none => rfl
        | some y =>
            simp only
            rw [oppositePair?_comm]
  · rw [contradictoryVerbs?_eq_none hEntity,
      contradictoryVerbs?_eq_none (Ne.symm hEntity)]

/- Two constraints give one finding in either order. -/
theorem conflictFinding?_comm
    (first second : String)
    {a b : Constraint}
    (hA : a.HasTrimmedValue)
    (hB : b.HasTrimmedValue) :
    conflictFinding? first second a b =
      conflictFinding? first second b a := by
  unfold conflictFinding?
  cases hKindA : a.kind with
  | aiCondition => cases b.kind <;> rfl
  | fieldValue =>
      cases hKindB : b.kind with
      | aiCondition => rfl
      | actionTrigger => rfl
      | fieldValue =>
          have hValues := conflictingValues?_comm
            (hA hKindA) (hB hKindB)
          simp only
          by_cases hSame :
              a.entity = b.entity ∧ a.field = b.field
          · rw [hValues,
              target?_eq_of_same_subject hSame.1 hSame.2]
          · rw [← hValues, conflictingValues?_eq_none hSame]
            rfl
  | actionTrigger =>
      cases b.kind with
      | aiCondition => rfl
      | fieldValue => rfl
      | actionTrigger =>
          have hVerbs := contradictoryVerbs?_comm a b
          simp only
          by_cases hEntity : a.entity = b.entity
          · rw [hVerbs, hEntity]
          · rw [← hVerbs, contradictoryVerbs?_eq_none hEntity]
            rfl

/- Two descriptions have one alphabetical order. -/
theorem sortedDescriptions_comm (r s : Rule) :
    sortedDescriptions r s = sortedDescriptions s r := by
  unfold sortedDescriptions
  by_cases hLess : s.description < r.description
  · rw [if_pos hLess, if_neg (String.lt_asymm hLess)]
  · rw [if_neg hLess]
    by_cases hMore : r.description < s.description
    · rw [if_pos hMore]
    · have hSame : r.description = s.description :=
        String.le_antisymm (String.not_lt.mp hLess)
          (String.not_lt.mp hMore)
      rw [if_neg hMore, hSame]

/-
  Two constraints give one issue in either order: also its
  place, that of the later rule, is the same.
-/
theorem pairIssue?_comm
    (rules : List Rule)
    {a b : Constraint}
    (hA : a.HasTrimmedValue)
    (hB : b.HasTrimmedValue) :
    pairIssue? rules a b = pairIssue? rules b a := by
  unfold pairIssue?
  by_cases hSame : a.ruleIndex = b.ruleIndex
  · rw [if_pos hSame, if_pos hSame.symm]
  · rw [if_neg hSame, if_neg (Ne.symm hSame)]
    cases rules[a.ruleIndex]? with
    | none => cases rules[b.ruleIndex]? <;> rfl
    | some r =>
        cases rules[b.ruleIndex]? with
        | none => rfl
        | some s =>
            have hNames := sortedDescriptions_comm r s
            unfold sortedDescriptions at hNames
            have hLater :
                (if a.ruleIndex < b.ruleIndex then s else r) =
                  if b.ruleIndex < a.ruleIndex then r
                  else s := by
              by_cases hLess : a.ruleIndex < b.ruleIndex
              · rw [if_pos hLess, if_neg (by omega)]
              · rw [if_neg hLess, if_pos (by omega)]
            simp only
            rw [← hNames, hLater,
              conflictFinding?_comm _ _ hA hB]

end Blueprint

------------------------------------------------------------
-- Clashes in Any Order
------------------------------------------------------------

namespace Blueprint

/- Two demands clash in the same words in either order. -/
theorem content_clash?_comm
    (r s : Rule)
    {a? b? : Option Constraint}
    (hA : ∀ a, a? = some a → a.HasTrimmedValue)
    (hB : ∀ b, b? = some b → b.HasTrimmedValue) :
    (clash? r s a? b?).map Issue.content =
      (clash? s r b? a?).map Issue.content := by
  unfold clash?
  cases a? with
  | none => cases b? <;> rfl
  | some a =>
      cases b? with
      | none => rfl
      | some b =>
          simp only [Option.bind_some, Option.map_map]
          rw [sortedDescriptions_comm r s,
            conflictFinding?_comm _ _ (hA a rfl) (hB b rfl)]
          rfl

/- Two rules clash in the same words in either order. -/
theorem content_clashes_comm
    (names : List String)
    (r s : Rule) :
    (clashes names (r, s)).map Issue.content =
      (clashes names (s, r)).map Issue.content := by
  have hValues : (valueClash? names r s).map Issue.content =
      (valueClash? names s r).map Issue.content :=
    content_clash?_comm r s
      (fun _ => hasTrimmedValue_of_conditionConstraint?)
      (fun _ => hasTrimmedValue_of_conditionConstraint?)
  have hActions :
      (actionClash? names r s).map Issue.content =
        (actionClash? names s r).map Issue.content :=
    content_clash?_comm r s
      (fun _ => hasTrimmedValue_of_actionConstraint?)
      (fun _ => hasTrimmedValue_of_actionConstraint?)
  unfold clashes
  rw [List.map_append, List.map_append, ← Option.toList_map,
    ← Option.toList_map, hValues, hActions,
    Option.toList_map, Option.toList_map]

variable {α β : Type}

/-
  When the order within a pair does not matter, the order of
  the items matters to the order of the results only.
-/
theorem flatMap_pairsOf_perm
    {f : α × α → List β}
    (hComm : ∀ a b, f (a, b) = f (b, a))
    {items others : List α}
    (h : items.Perm others) :
    ((pairsOf items).flatMap f).Perm
      ((pairsOf others).flatMap f) := by
  induction h with
  | nil => exact List.Perm.refl _
  | cons a hRest ih =>
      rw [flatMap_pairsOf_cons, flatMap_pairsOf_cons]
      apply List.Perm.append _ ih
      exact List.Perm.flatMap_right _ hRest
  | swap a b rest =>
      rw [flatMap_pairsOf_cons, flatMap_pairsOf_cons,
        flatMap_pairsOf_cons, flatMap_pairsOf_cons,
        List.flatMap_cons, List.flatMap_cons, hComm b a,
        List.append_assoc, List.append_assoc]
      apply List.Perm.append_left
      rw [← List.append_assoc, ← List.append_assoc]
      apply List.Perm.append_right
      exact List.perm_append_comm
  | trans _ _ ihFirst ihSecond =>
      exact ihFirst.trans ihSecond

/- The pairs of constraints say the same in any order. -/
theorem content_pairIssues_perm
    (spec : Spec)
    (names : List String)
    {rules : List Rule}
    (hRules : rules.Perm spec.rules) :
    ((pairIssues rules
      (constraints { spec with rules := rules } names)).map
        Issue.content).Perm
      ((pairIssues spec.rules
        (constraints spec names)).map Issue.content) := by
  have hFirst := (pairIssues_constraints_perm
    { spec with rules := rules } names).map Issue.content
  have hSecond := (pairIssues_constraints_perm
    spec names).map Issue.content
  rw [List.map_flatMap] at hFirst hSecond
  have hMiddle := flatMap_pairsOf_perm
    (f := fun p => (clashes names p).map Issue.content)
    (content_clashes_comm names) hRules
  exact hFirst.trans (hMiddle.trans hSecond.symm)

end Blueprint

------------------------------------------------------------
-- Specifications
------------------------------------------------------------

namespace Blueprint

/- The constraints of a rule compare with trimmed values. -/
theorem hasTrimmedValue_of_mem_constraintsFrom
    {names : List String}
    {index : Nat}
    {rules : List Rule}
    {c : Constraint}
    (h : c ∈ constraintsFrom names index rules) :
    c.HasTrimmedValue := by
  induction rules generalizing index with
  | nil => cases h
  | cons r rules ih =>
      rw [constraintsFrom, constraintsOfRule,
        List.mem_append, List.mem_append, Option.mem_toList,
        Option.mem_toList] at h
      rcases h with (hCondition | hAction) | hRest
      · exact
          hasTrimmedValue_of_conditionConstraint? hCondition
      · exact hasTrimmedValue_of_actionConstraint? hAction
      · exact ih hRest

/-
  Rules in another order have the same conflicts, up to the
  order and the places of the issues. Two constraints even
  give the very same issue in either order: the values and
  the descriptions that it shows are not swapped.
-/
theorem conflictIssues_perm
    {spec : Spec}
    {rules : List Rule}
    (env : TypeEnv)
    (hRules : rules.Perm spec.rules) :
    ((conflictIssues { spec with rules := rules } env).map
        Issue.content).Perm
      ((conflictIssues spec env).map Issue.content) ∧
    ∀ a ∈ constraints spec env.entityNames,
      ∀ b ∈ constraints spec env.entityNames,
        pairIssue? spec.rules a b =
          pairIssue? spec.rules b a := by
  constructor
  · unfold conflictIssues
    rw [List.map_append, List.map_append,
      content_overloadIssues spec env.entityNames hRules]
    apply List.Perm.append_right
    exact content_pairIssues_perm spec _ hRules
  · intro a hA b hB
    exact pairIssue?_comm spec.rules
      (hasTrimmedValue_of_mem_constraintsFrom hA)
      (hasTrimmedValue_of_mem_constraintsFrom hB)

/- Two rules that expect opposite values of one field. -/
def visibilitySpec : Spec where
  appName := "Blog"
  entities := []
  screens := []
  flows := []
  rules :=
    [⟨"Show", some (.plain "post.visible is true"), none,
      ⟨"blog", 2⟩⟩,
     ⟨"Hide", some (.plain "post.visible is false"), none,
      ⟨"blog", 4⟩⟩]
  integrations := []
  events := []

/- The two rules, the second one first. -/
theorem conflictIssues_perm_visibilitySpec :
    ((conflictIssues
        { visibilitySpec with
          rules := visibilitySpec.rules.reverse }
        (TypeEnv.ofSpec visibilitySpec)).map
          Issue.content).Perm
      ((conflictIssues visibilitySpec
        (TypeEnv.ofSpec visibilitySpec)).map
          Issue.content) ∧
    ∀ a ∈ constraints visibilitySpec
        (TypeEnv.ofSpec visibilitySpec).entityNames,
      ∀ b ∈ constraints visibilitySpec
          (TypeEnv.ofSpec visibilitySpec).entityNames,
        pairIssue? visibilitySpec.rules a b =
          pairIssue? visibilitySpec.rules b a :=
  conflictIssues_perm (TypeEnv.ofSpec visibilitySpec)
    (List.reverse_perm visibilitySpec.rules)

end Blueprint
