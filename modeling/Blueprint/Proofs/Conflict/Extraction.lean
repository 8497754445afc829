import Blueprint.Proofs.Conflict.Overload
import Mathlib.Data.List.Forall2
import Mathlib.Data.List.Nodup
import Mathlib.Data.List.Pairwise
import Mathlib.Data.List.Range

/-
  The constraints of a specification, rule by rule: at most
  one of the condition of each rule, and behind it at most
  one of its action. So a constraint is told by its kind and
  its rule, every rule that a comparison looks up is there,
  and no two rules are compared twice for one kind.

  Main definitions:
    * `ConditionGives`, `ActionGives`, `RuleGives`
    * `Constraint.Carries`, `Constraint.Precedes`
    * `comparedPairs`, `foundIssue?`
    * `ExtractsConstraints`

  Main statements:
    * `constraintsFrom_eq_flatMap`
    * `constraintsFrom_pairwise_precedes`
    * `pairIssues_eq_filterMap_comparedPairs`
    * `foundIssue?_of_lt`
    * `nodup_map_comparedPairs`
    * `extractsConstraints_constraints`
-/

------------------------------------------------------------
-- Constraints of One Rule
------------------------------------------------------------

namespace Blueprint

/-
  What the condition of the rule at a place gives. A text
  that is a comparison gives its value, and a question to an
  AI gives its prompt. Another text gives nothing, nor does
  a rule without a condition.
-/
inductive ConditionGives
    (place : Nat)
    (r : Rule) : Option Constraint → Prop
| value
    {text : String}
    {comparison : Comparison}
    {c : Constraint}
    (plain : r.condition = some (.plain text))
    (compares : Comparison.ofText? text = some comparison)
    (kind : c.kind = .fieldValue)
    (condition : c.condition = some comparison.value)
    (action : c.action = none)
    (here : c.ruleIndex = place) :
    ConditionGives place r (some c)
| question
    {call : AiCall}
    {c : Constraint}
    (asks : r.condition = some (.ai call))
    (kind : c.kind = .aiCondition)
    (condition : c.condition = some call.prompt)
    (action : c.action = none)
    (here : c.ruleIndex = place) :
    ConditionGives place r (some c)
| other
    {text : String}
    (plain : r.condition = some (.plain text))
    (compares : Comparison.ofText? text = none) :
    ConditionGives place r none
| absent
    (always : r.condition = none) :
    ConditionGives place r none

/-
  What the action of the rule at a place gives: its verb.
  An action without a verb gives nothing, nor does a rule
  without an action.
-/
inductive ActionGives
    (place : Nat)
    (r : Rule) : Option Constraint → Prop
| verb
    {text word : String}
    {c : Constraint}
    (acts : r.action = some text)
    (leads : actionVerb? text = some word)
    (kind : c.kind = .actionTrigger)
    (condition : c.condition = none)
    (action : c.action = some word)
    (here : c.ruleIndex = place) :
    ActionGives place r (some c)
| verbless
    {text : String}
    (acts : r.action = some text)
    (leads : actionVerb? text = none) :
    ActionGives place r none
| absent
    (idle : r.action = none) :
    ActionGives place r none

/- A rule at a place gives a condition, and then an action. -/
inductive RuleGives
    (p : Rule × Nat) : List Constraint → Prop
| both
    {condition action : Option Constraint}
    (first : ConditionGives p.2 p.1 condition)
    (second : ActionGives p.2 p.1 action) :
    RuleGives p (condition.toList ++ action.toList)

/- The constraint of a condition is what it gives. -/
theorem conditionGives_conditionConstraint?
    (names : List String)
    (place : Nat)
    (r : Rule) :
    ConditionGives place r
      (conditionConstraint? names place r) := by
  unfold conditionConstraint?
  cases hCondition : r.condition with
  | none => exact .absent hCondition
  | some condition =>
      cases condition with
      | ai call =>
          exact .question hCondition rfl rfl rfl rfl
      | plain text =>
          cases hCompares : Comparison.ofText? text with
          | none =>
              rw [conditionDemand?, hCompares]
              exact .other hCondition hCompares
          | some comparison =>
              rw [conditionDemand?, hCompares]
              exact .value hCondition hCompares rfl rfl rfl rfl

/- The constraint of an action is what it gives. -/
theorem actionGives_actionConstraint?
    (names : List String)
    (place : Nat)
    (r : Rule) :
    ActionGives place r (actionConstraint? names place r) := by
  unfold actionConstraint?
  cases hAction : r.action with
  | none => exact .absent hAction
  | some text =>
      cases hVerb : actionVerb? text with
      | none =>
          rw [Option.bind_some, hVerb]
          exact .verbless hAction hVerb
      | some word =>
          rw [Option.bind_some, hVerb]
          exact .verb hAction hVerb rfl rfl rfl rfl

/- The constraints of a rule are what it gives. -/
theorem ruleGives_constraintsOfRule
    (names : List String)
    (p : Rule × Nat) :
    RuleGives p (constraintsOfRule names p.2 p.1) :=
  .both (conditionGives_conditionConstraint? names p.2 p.1)
    (actionGives_actionConstraint? names p.2 p.1)

namespace Constraint

/-
  A constraint carries what its kind asks for: an action has
  a verb and no condition, and all others have a condition
  and no verb.
-/
def Carries (c : Constraint) : Prop :=
  if c.kind = .actionTrigger then
    c.condition = none ∧ ∃ word, c.action = some word
  else
    (∃ text, c.condition = some text) ∧ c.action = none

/-
  A constraint stands before another one: its rule does, or
  it is the condition of a rule and the other its action.
-/
def Precedes (c d : Constraint) : Prop :=
  c.ruleIndex < d.ruleIndex ∨
    c.ruleIndex = d.ruleIndex ∧
      c.kind ≠ .actionTrigger ∧ d.kind = .actionTrigger

end Constraint

/- Whatever a rule gives carries what its kind asks for. -/
theorem RuleGives.carries
    {p : Rule × Nat}
    {group : List Constraint}
    {c : Constraint}
    (hGroup : RuleGives p group)
    (hMem : c ∈ group) :
    c.Carries := by
  rcases hGroup with ⟨hFirst, hSecond⟩
  rw [List.mem_append, Option.mem_toList,
    Option.mem_toList] at hMem
  unfold Constraint.Carries
  rcases hMem with rfl | rfl
  · cases hFirst with
    | value _ _ hKind hCondition hAction =>
        rw [if_neg (by simp [hKind])]
        exact ⟨⟨_, hCondition⟩, hAction⟩
    | question _ hKind hCondition hAction =>
        rw [if_neg (by simp [hKind])]
        exact ⟨⟨_, hCondition⟩, hAction⟩
  · cases hSecond with
    | verb _ _ hKind hCondition hAction =>
        rw [if_pos hKind]
        exact ⟨hCondition, _, hAction⟩

end Blueprint

------------------------------------------------------------
-- Constraints of all Rules
------------------------------------------------------------

namespace Blueprint

variable {names : List String}
variable {place : Nat}
variable {rules : List Rule}

/- Rules in their places have their constraints in order. -/
theorem constraintsFrom_eq_flatMap
    (names : List String)
    (place : Nat)
    (rules : List Rule) :
    constraintsFrom names place rules =
      (rules.zipIdx place).flatMap fun p =>
        constraintsOfRule names p.2 p.1 := by
  induction rules generalizing place with
  | nil => rfl
  | cons r rules ih =>
      rw [constraintsFrom, ih, List.zipIdx_cons,
        List.flatMap_cons]

/- The constraints are what the rules give, one by one. -/
theorem exists_groups
    (names : List String)
    (place : Nat)
    (rules : List Rule) :
    ∃ groups : List (List Constraint),
      constraintsFrom names place rules = groups.flatten ∧
        List.Forall₂ RuleGives (rules.zipIdx place)
          groups := by
  refine ⟨(rules.zipIdx place).map fun p =>
    constraintsOfRule names p.2 p.1, ?_, ?_⟩
  · rw [constraintsFrom_eq_flatMap, List.flatMap_def]
  · rw [List.forall₂_map_right_iff, List.forall₂_same]
    intro p _
    exact ruleGives_constraintsOfRule names p

/- Places are numbered upwards. -/
theorem zipIdx_pairwise_lt
    (rules : List Rule)
    (place : Nat) :
    (rules.zipIdx place).Pairwise
      (fun p q => p.2 < q.2) := by
  have hPlaces : ((rules.zipIdx place).map
      Prod.snd).Pairwise (· < ·) := by
    rw [List.zipIdx_map_snd]
    exact List.pairwise_lt_range'
  exact List.pairwise_map.mp hPlaces

/- The condition of a rule precedes its action. -/
theorem constraintsOfRule_pairwise_precedes
    (names : List String)
    (place : Nat)
    (r : Rule) :
    (constraintsOfRule names place r).Pairwise
      Constraint.Precedes := by
  unfold constraintsOfRule
  cases hFirst : conditionConstraint? names place r with
  | none =>
      cases actionConstraint? names place r with
      | none => exact .nil
      | some d => exact List.pairwise_singleton _ d
  | some c =>
      cases hSecond : actionConstraint? names place r with
      | none => exact List.pairwise_singleton _ c
      | some d =>
          have hC : c ∈ constraintsOfRule names place r := by
            simp [constraintsOfRule, hFirst]
          have hD : d ∈ constraintsOfRule names place r := by
            simp [constraintsOfRule, hSecond]
          have hPlace : c.ruleIndex = d.ruleIndex := by
            rw [ruleIndex_of_mem_constraintsOfRule hC,
              ruleIndex_of_mem_constraintsOfRule hD]
          apply List.pairwise_pair.mpr
          exact .inr ⟨hPlace,
            kind_of_conditionConstraint? hFirst,
            kind_of_actionConstraint? hSecond⟩

/- So all constraints stand in one order without repetition. -/
theorem constraintsFrom_pairwise_precedes
    (names : List String)
    (place : Nat)
    (rules : List Rule) :
    (constraintsFrom names place rules).Pairwise
      Constraint.Precedes := by
  rw [constraintsFrom_eq_flatMap, List.pairwise_flatMap]
  constructor
  · intro p _
    exact constraintsOfRule_pairwise_precedes names p.2 p.1
  · apply (zipIdx_pairwise_lt rules place).imp
    intro p q hPlace c hC d hD
    left
    rw [ruleIndex_of_mem_constraintsOfRule hC,
      ruleIndex_of_mem_constraintsOfRule hD]
    exact hPlace

/- Whatever the rules give carries what its kind asks for. -/
theorem carries_of_mem_constraintsFrom
    {c : Constraint}
    (hMem : c ∈ constraintsFrom names place rules) :
    c.Carries := by
  rw [constraintsFrom_eq_flatMap, List.mem_flatMap] at hMem
  rcases hMem with ⟨p, _, hGroup⟩
  exact (ruleGives_constraintsOfRule names p).carries hGroup

end Blueprint

------------------------------------------------------------
-- Compared Pairs
------------------------------------------------------------

namespace Blueprint

variable {α : Type}

/- What holds in the order of a list holds of its pairs. -/
theorem forall_mem_pairsOf
    {R : α → α → Prop}
    {items : List α}
    (hItems : items.Pairwise R) :
    ∀ p ∈ pairsOf items, R p.1 p.2 := by
  induction hItems with
  | nil => exact fun p hMem => absurd hMem List.not_mem_nil
  | cons hFirst _ ih =>
      intro p hMem
      rw [pairsOf, List.mem_append, List.mem_map] at hMem
      rcases hMem with ⟨b, hB, rfl⟩ | hRest
      · exact hFirst b hB
      · exact ih p hRest

/- Pairs are made of the items of the list. -/
theorem mem_of_mem_pairsOf
    {items : List α}
    {p : α × α}
    (hMem : p ∈ pairsOf items) :
    p.1 ∈ items ∧ p.2 ∈ items := by
  have hItems : items.Pairwise
      (fun a b => a ∈ items ∧ b ∈ items ∧ True) :=
    List.Pairwise.and_mem.mp
      (List.pairwise_of_forall fun _ _ => trivial)
  have hPair := forall_mem_pairsOf hItems p hMem
  exact ⟨hPair.1, hPair.2.1⟩

/- Different items make different pairs. -/
theorem nodup_pairsOf
    {items : List α}
    (hItems : items.Nodup) :
    (pairsOf items).Nodup := by
  induction items with
  | nil => exact List.nodup_nil
  | cons a rest ih =>
      rw [List.nodup_cons] at hItems
      have hFirst : (rest.map (a, ·)).Nodup := by
        apply List.Nodup.map _ hItems.2
        intro b c hSame
        exact (Prod.mk.inj hSame).2
      rw [pairsOf, List.nodup_append]
      refine ⟨hFirst, ih hItems.2, ?_⟩
      rintro p hP q hQ rfl
      rcases List.mem_map.mp hP with ⟨b, _, rfl⟩
      exact hItems.1 (mem_of_mem_pairsOf hQ).1

/-
  The pairs of constraints that are compared: those of
  different rules and of one kind.
-/
def comparedPairs
    (cs : List Constraint) :
    List (Constraint × Constraint) :=
  (pairsOf cs).filter fun p =>
    decide (p.1.ruleIndex ≠ p.2.ruleIndex) &&
      decide (p.1.kind = p.2.kind)

variable {rules : List Rule}
variable {cs : List Constraint}

theorem mem_comparedPairs_iff
    {p : Constraint × Constraint} :
    p ∈ comparedPairs cs ↔
      p ∈ pairsOf cs ∧ p.1.ruleIndex ≠ p.2.ruleIndex ∧
        p.1.kind = p.2.kind := by
  rw [comparedPairs, List.mem_filter, Bool.and_eq_true,
    decide_eq_true_eq, decide_eq_true_eq]

/- Pairs that are not compared have no issue. -/
theorem pairIssue?_eq_none_of_not_compared
    {a b : Constraint}
    (hPair : (decide (a.ruleIndex ≠ b.ruleIndex) &&
      decide (a.kind = b.kind)) = false) :
    pairIssue? rules a b = none := by
  unfold pairIssue?
  split
  · rfl
  · rename_i hApart
    have hKind : a.kind ≠ b.kind := by
      simpa [hApart] using hPair
    have hNone : ∀ first second,
        conflictFinding? first second a b = none := by
      intro first second
      unfold conflictFinding?
      split
      · rename_i hA hB
        exact absurd (hA.trans hB.symm) hKind
      · rename_i hA hB
        exact absurd (hA.trans hB.symm) hKind
      · rfl
    split
    · simp only [hNone, Option.map_none]
    · rfl

/- All issues of pairs are those of the compared ones. -/
theorem pairIssues_eq_filterMap_comparedPairs
    (rules : List Rule)
    (cs : List Constraint) :
    pairIssues rules cs =
      (comparedPairs cs).filterMap fun p =>
        pairIssue? rules p.1 p.2 := by
  induction cs with
  | nil => rfl
  | cons a rest ih =>
      unfold comparedPairs at ih ⊢
      rw [pairIssues, pairsOf, List.filter_append,
        List.filterMap_append, ← ih, List.filterMap_filter,
        List.filterMap_map]
      congr 1
      apply List.filterMap_congr
      intro b _
      dsimp only [Function.comp_apply]
      split
      · rfl
      · rename_i hPair
        rw [Bool.not_eq_true] at hPair
        exact pairIssue?_eq_none_of_not_compared hPair

/-
  The issue of two constraints, where the later one of their
  rules is looked up at its place. Without a rule there,
  there is no result at all. A description that is missing
  counts as empty.
-/
def foundIssue?
    (rules : List Rule)
    (a b : Constraint) : Option (Option Issue) :=
  let description := fun (c : Constraint) =>
    (rules[c.ruleIndex]?.map Rule.description).getD ""
  let (first, second) :=
    if description b < description a then
      (description b, description a)
    else
      (description a, description b)
  match conflictFinding? first second a b with
  | none => some none
  | some finding =>
      rules[max a.ruleIndex b.ruleIndex]?.map fun r =>
        some (.of finding r.location)

/- Constraints of two rules that are there have a result. -/
theorem foundIssue?_of_lt
    {a b : Constraint}
    {r s : Rule}
    (hFirst : rules[a.ruleIndex]? = some r)
    (hSecond : rules[b.ruleIndex]? = some s)
    (hOrder : a.ruleIndex < b.ruleIndex) :
    foundIssue? rules a b = some (pairIssue? rules a b) := by
  have hApart : a.ruleIndex ≠ b.ruleIndex :=
    Nat.ne_of_lt hOrder
  have hLater : max a.ruleIndex b.ruleIndex = b.ruleIndex :=
    Nat.max_eq_right (Nat.le_of_lt hOrder)
  unfold foundIssue? pairIssue?
  simp only [hFirst, hSecond, hLater, if_neg hApart,
    if_pos hOrder, Option.map_some, Option.getD_some]
  split
  · rename_i hFinding
    rw [hFinding]
    rfl
  · rename_i finding hFinding
    rw [hFinding]
    rfl

end Blueprint

------------------------------------------------------------
-- Extracted Constraints
------------------------------------------------------------

namespace Blueprint

variable {rules : List Rule}
variable {cs : List Constraint}

/- In order, a kind and a rule tell a constraint. -/
theorem nodup_map_kind_ruleIndex
    (hOrder : cs.Pairwise Constraint.Precedes) :
    (cs.map fun c => (c.kind, c.ruleIndex)).Nodup := by
  rw [List.nodup_iff_pairwise_ne, List.pairwise_map]
  apply hOrder.imp
  intro c d hPrecedes hSame
  rw [Prod.mk.injEq] at hSame
  rcases hPrecedes with hPlace | ⟨_, hFirst, hSecond⟩
  · exact absurd hSame.2 (Nat.ne_of_lt hPlace)
  · exact hFirst (hSame.1.trans hSecond)

/- What is compared with a constraint is of a later rule. -/
theorem ruleIndex_lt_of_mem_comparedPairs
    {p : Constraint × Constraint}
    (hOrder : cs.Pairwise Constraint.Precedes)
    (hMem : p ∈ comparedPairs cs) :
    p.1.ruleIndex < p.2.ruleIndex := by
  rcases mem_comparedPairs_iff.mp hMem with
    ⟨hPair, hApart, _⟩
  rcases forall_mem_pairsOf hOrder p hPair with
    hPlace | ⟨hSame, _⟩
  · exact hPlace
  · exact absurd hSame hApart

/- No two rules are compared twice for one kind. -/
theorem nodup_map_comparedPairs
    (hOrder : cs.Pairwise Constraint.Precedes) :
    ((comparedPairs cs).map fun p =>
      (p.1.kind, p.1.ruleIndex, p.2.ruleIndex)).Nodup := by
  have hKeys := nodup_map_kind_ruleIndex hOrder
  have hPairs : (comparedPairs cs).Nodup :=
    (nodup_pairsOf hKeys.of_map).filter _
  have hTold : ∀ c ∈ cs, ∀ d ∈ cs, c.kind = d.kind →
      c.ruleIndex = d.ruleIndex → c = d := by
    intro c hC d hD hKind hPlace
    exact List.inj_on_of_nodup_map hKeys hC hD
      (Prod.ext hKind hPlace)
  apply hPairs.map_on
  intro p hP q hQ hSame
  rcases mem_comparedPairs_iff.mp hP with ⟨hP, _, hOneKind⟩
  rcases mem_comparedPairs_iff.mp hQ with ⟨hQ, _, hAlike⟩
  rcases mem_of_mem_pairsOf hP with ⟨hP1, hP2⟩
  rcases mem_of_mem_pairsOf hQ with ⟨hQ1, hQ2⟩
  simp only [Prod.mk.injEq] at hSame
  rcases hSame with ⟨hKind, hFirst, hSecond⟩
  have hOther : p.2.kind = q.2.kind :=
    hOneKind.symm.trans (hKind.trans hAlike)
  exact Prod.ext (hTold _ hP1 _ hQ1 hKind hFirst)
    (hTold _ hP2 _ hQ2 hOther hSecond)

/-
  Constraints that are extracted from rules, in their order:
  what each condition gives, and then what its action gives.
  They carry what their kinds ask for, and the places of
  their rules never decrease and never exceed the rules, nor
  does the later place of two of them.

  Only some pairs of them are compared, but no issue is lost
  by that. Whatever the comparison of such a pair looks up
  is there, and no two rules are compared twice for one
  kind.
-/
structure ExtractsConstraints
    (rules : List Rule)
    (cs : List Constraint) : Prop where
  grouped :
    ∃ groups : List (List Constraint),
      cs = groups.flatten ∧
        List.Forall₂ RuleGives rules.zipIdx groups
  ordered :
    cs.Pairwise fun c d => c.ruleIndex ≤ d.ruleIndex
  within : ∀ c ∈ cs, c.ruleIndex < rules.length
  carries : ∀ c ∈ cs, c.Carries
  later :
    ∀ a ∈ cs, ∀ b ∈ cs,
      max a.ruleIndex b.ruleIndex < rules.length
  scanned :
    pairIssues rules cs =
      (comparedPairs cs).filterMap fun p =>
        pairIssue? rules p.1 p.2
  found :
    ∀ p ∈ comparedPairs cs,
      foundIssue? rules p.1 p.2 =
        some (pairIssue? rules p.1 p.2)
  forward :
    ∀ p ∈ comparedPairs cs,
      p.1.ruleIndex < p.2.ruleIndex
  once :
    ((comparedPairs cs).map fun p =>
      (p.1.kind, p.1.ruleIndex, p.2.ruleIndex)).Nodup

/- The constraints of a specification are so extracted. -/
theorem extractsConstraints_constraints
    (spec : Spec)
    (names : List String) :
    ExtractsConstraints spec.rules
      (constraints spec names) := by
  have hOrder : (constraints spec names).Pairwise
      Constraint.Precedes :=
    constraintsFrom_pairwise_precedes names 0 spec.rules
  have hRule : ∀ c ∈ constraints spec names,
      ∃ r, spec.rules[c.ruleIndex]? = some r := by
    intro c hMem
    exact exists_rule_of_mem_constraintsFrom
      (standFrom_zero spec.rules) hMem
  have hWithin : ∀ c ∈ constraints spec names,
      c.ruleIndex < spec.rules.length := by
    intro c hMem
    rcases hRule c hMem with ⟨r, hFound⟩
    exact (List.getElem?_eq_some_iff.mp hFound).1
  refine ⟨exists_groups names 0 spec.rules, ?ordered,
    hWithin, fun c hMem => carries_of_mem_constraintsFrom hMem,
    fun a hA b hB => max_lt (hWithin a hA) (hWithin b hB),
    pairIssues_eq_filterMap_comparedPairs _ _, ?found,
    fun p => ruleIndex_lt_of_mem_comparedPairs hOrder,
    nodup_map_comparedPairs hOrder⟩
  case ordered =>
      apply hOrder.imp
      rintro c d (hPlace | ⟨hPlace, _⟩)
      · exact Nat.le_of_lt hPlace
      · exact Nat.le_of_eq hPlace
  case found =>
      intro p hMem
      rcases mem_of_mem_pairsOf
        (mem_comparedPairs_iff.mp hMem).1 with ⟨hA, hB⟩
      rcases hRule p.1 hA with ⟨r, hFirst⟩
      rcases hRule p.2 hB with ⟨s, hSecond⟩
      exact foundIssue?_of_lt hFirst hSecond
        (ruleIndex_lt_of_mem_comparedPairs hOrder hMem)

end Blueprint
