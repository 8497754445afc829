import Blueprint.Proofs.Conflict.Overload
import Blueprint.Proofs.Issue.Checks
import Blueprint.Proofs.Issue.Severity
import Blueprint.Proofs.Prose.Values
import Blueprint.Proofs.Verdict.Tidy
import Mathlib.Data.List.Pairwise

/-
  Conflicts of rules are warned of exactly when two of their
  constraints clash. The constraints of rules depend only on
  which names belong to entities, not on the table that the
  names are taken from.

  Main statements:
    * `constraints_congr`
    * `isSome_conflictFinding?_iff`
    * `pairIssues_eq_nil_iff`
    * `lacks_warning_conflictIssues_iff`
-/

------------------------------------------------------------
-- Names of Entities
------------------------------------------------------------

namespace Blueprint

/- The environment names the entities that are declared. -/
theorem mem_entityNames_ofSpec_iff
    (spec : Spec)
    (n : String) :
    n ∈ (TypeEnv.ofSpec spec).entityNames ↔
      n ∈ spec.entityNames := by
  unfold TypeEnv.entityNames TypeEnv.ofSpec Spec.entityNames
  rw [mem_sortNames_iff, List.map_map]
  exact (mem_map_firsts_iff Entity.name _ n).trans
    List.mem_map.symm

section Names

variable {names others : List String}
variable (hSame : ∀ n, n ∈ names ↔ n ∈ others)
include hSame

/- Lists of the same names are searched with one result. -/
theorem contains_congr (n : String) :
    names.contains n = others.contains n := by
  rw [Bool.eq_iff_iff, List.contains_iff_mem,
    List.contains_iff_mem]
  exact hSame n

/- A text refers to the same entity among the same names. -/
theorem Reference.ofText_congr (text : String) :
    Reference.ofText names text =
      Reference.ofText others text := by
  unfold Reference.ofText Reference.ofWord
  simp only [contains_congr hSame]

/- A text mentions the same entity among the same names. -/
theorem mentionedEntity?_congr (text : String) :
    mentionedEntity? names text =
      mentionedEntity? others text := by
  unfold mentionedEntity?
  simp only [contains_congr hSame]

/- A condition is about the same subject. -/
theorem conditionSubject_congr
    (condition : Option Condition) :
    conditionSubject names condition =
      conditionSubject others condition := by
  unfold conditionSubject comparisonSubject
  simp only [Reference.ofText_congr hSame,
    mentionedEntity?_congr hSame]

/- A rule has the same constraints. -/
theorem constraintsOfRule_congr
    (index : Nat)
    (r : Rule) :
    constraintsOfRule names index r =
      constraintsOfRule others index r := by
  unfold constraintsOfRule conditionConstraint?
    actionConstraint? actionEntity?
  simp only [conditionSubject_congr hSame,
    mentionedEntity?_congr hSame]

/- All rules have the same constraints. -/
theorem constraints_congr (spec : Spec) :
    constraints spec names = constraints spec others := by
  have hFrom : ∀ (rules : List Rule) (index : Nat),
      constraintsFrom names index rules =
        constraintsFrom others index rules := by
    intro rules
    induction rules with
    | nil => exact fun _ => rfl
    | cons r rules ih =>
        intro index
        rw [constraintsFrom, constraintsFrom,
          constraintsOfRule_congr hSame, ih]
  exact hFrom spec.rules 0

end Names

end Blueprint

------------------------------------------------------------
-- Opposites
------------------------------------------------------------

namespace Blueprint

/- A pair is found when the words are one, in either order. -/
theorem isSome_oppositePair?_iff
    {table : List (String × String)}
    {x y : String} :
    (oppositePair? table x y).isSome = true ↔
      ArePair table x y := by
  unfold oppositePair? ArePair
  rw [List.find?_isSome]
  simp only [Bool.or_eq_true, Bool.and_eq_true, beq_iff_eq]
  constructor
  · rintro ⟨⟨p, q⟩, hMem, ⟨rfl, rfl⟩ | ⟨rfl, rfl⟩⟩
    · exact .inl hMem
    · exact .inr hMem
  · rintro (hMem | hMem)
    · exact ⟨(x, y), hMem, .inl ⟨rfl, rfl⟩⟩
    · exact ⟨(y, x), hMem, .inr ⟨rfl, rfl⟩⟩

/- What a value negates is left when it is stripped. -/
theorem stripNegation?_eq_some_trim_iff
    {x y : String} :
    stripNegation? x.toList = some (Text.trim y.toList) ↔
      Negates x y := by
  rw [stripNegation?_eq_some_iff]
  unfold Negates
  simp only [eq_comm]

/- Values are negations when one of them negates the other. -/
theorem isNegationOf_iff
    {x y : String} :
    isNegationOf x y = true ↔
      Negates x y ∨ Negates y x := by
  unfold isNegationOf
  rw [Bool.or_eq_true, beq_iff_eq, beq_iff_eq,
    stripNegation?_eq_some_trim_iff,
    stripNegation?_eq_some_trim_iff]

/- Values are opposite as antonyms or as negations. -/
theorem isSome_oppositeValues?_iff
    {x y : String} :
    (oppositeValues? x y).isSome = true ↔
      ArePair antonyms x y ∨ Negates x y ∨ Negates y x := by
  rw [← isSome_oppositePair?_iff, ← isNegationOf_iff]
  unfold oppositeValues?
  cases oppositePair? antonyms x y with
  | some pair => simp
  | none =>
      by_cases hNegation : isNegationOf x y = true
      · by_cases hOrder : x.utf8ByteSize ≤ y.utf8ByteSize
        · simp [hNegation, hOrder]
        · simp [hNegation, hOrder]
      · simp [hNegation]

end Blueprint

------------------------------------------------------------
-- Clashes
------------------------------------------------------------

namespace Blueprint

variable {a b : Constraint}

/- It does not matter which constraint comes first. -/
theorem Constraint.Clashes.symm
    (h : a.Clashes b) :
    b.Clashes a := by
  cases h with
  | values hA hB hEntity hField hOther hX hY hOpposite =>
      refine .values hB hA hEntity.symm hOther hField hY hX ?_
      rcases hOpposite with hPair | hNegates | hNegates
      · exact .inl hPair.symm
      · exact .inr (.inr hNegates)
      · exact .inr (.inl hNegates)
  | actions hA hB hEntity hOther hX hY hPair =>
      exact .actions hB hA hOther hEntity hY hX hPair.symm

/- Two conditions conflict when their values are opposite. -/
theorem isSome_conflictingValues?_iff :
    (conflictingValues? a b).isSome = true ↔
      a.entity = b.entity ∧
        (∃ field,
          a.field = some field ∧ b.field = some field) ∧
        ∃ x y, a.condition = some x ∧ b.condition = some y ∧
          (oppositeValues? x y).isSome = true := by
  unfold conflictingValues?
  by_cases hSame :
      (a.field.isSome && a.entity = b.entity &&
        a.field = b.field) = true
  · rw [if_pos hSame]
    simp only [Bool.and_eq_true, decide_eq_true_eq,
      Option.isSome_iff_exists] at hSame
    rcases hSame with ⟨⟨⟨field, hField⟩, hEntity⟩, hFields⟩
    rw [hField] at hFields
    cases a.condition with
    | none => simp
    | some x =>
        cases b.condition with
        | none => simp
        | some y => simp [hEntity, hField, ← hFields]
  · rw [if_neg hSame]
    simp only [Option.isSome_none, Bool.false_eq_true,
      false_iff]
    rintro ⟨hEntity, ⟨field, hField, hOther⟩, _⟩
    apply hSame
    simp [hEntity, hField, hOther]

/- Two actions conflict when their verbs are contradictory. -/
theorem isSome_contradictoryVerbs?_iff :
    (contradictoryVerbs? a b).isSome = true ↔
      (∃ entity,
        a.entity = some entity ∧ b.entity = some entity) ∧
      ∃ x y, a.action = some x ∧ b.action = some y ∧
        ArePair contradictions x y := by
  unfold contradictoryVerbs?
  by_cases hSame :
      (a.entity.isSome && a.entity = b.entity) = true
  · rw [if_pos hSame]
    simp only [Bool.and_eq_true, decide_eq_true_eq,
      Option.isSome_iff_exists] at hSame
    rcases hSame with ⟨⟨entity, hEntity⟩, hEntities⟩
    rw [hEntity] at hEntities
    cases a.action with
    | none => simp
    | some x =>
        cases b.action with
        | none => simp
        | some y =>
            simp [hEntity, ← hEntities,
              isSome_oppositePair?_iff]
  · rw [if_neg hSame]
    simp only [Option.isSome_none, Bool.false_eq_true,
      false_iff]
    rintro ⟨⟨entity, hEntity, hOther⟩, _⟩
    apply hSame
    simp [hEntity, hOther]

/- A field has a target, whether or not it has an entity. -/
theorem isSome_target?_of_field
    {field : String}
    (hField : a.field = some field) :
    ∃ target, a.target? = some target := by
  unfold Constraint.target?
  rw [hField]
  cases a.entity with
  | none => exact ⟨_, rfl⟩
  | some entity => exact ⟨_, rfl⟩

/- Something is found about two constraints that clash. -/
theorem isSome_conflictFinding?_iff
    {first second : String} :
    (conflictFinding? first second a b).isSome = true ↔
      a.Clashes b := by
  constructor
  · intro h
    unfold conflictFinding? at h
    split at h
    · rename_i hA hB
      rcases Option.isSome_iff_exists.mp h with ⟨_, hBind⟩
      rcases Option.bind_eq_some_iff.mp hBind with
        ⟨p, hValues, _⟩
      have hSome : (conflictingValues? a b).isSome = true := by
        rw [hValues]
        rfl
      rcases isSome_conflictingValues?_iff.mp hSome with
        ⟨hEntity, ⟨field, hField, hOther⟩, x, y, hX, hY,
          hOpposite⟩
      exact .values hA hB hEntity hField hOther hX hY
        (isSome_oppositeValues?_iff.mp hOpposite)
    · rename_i hA hB
      rcases Option.isSome_iff_exists.mp h with ⟨_, hBind⟩
      rcases Option.bind_eq_some_iff.mp hBind with
        ⟨p, hVerbs, _⟩
      have hSome :
          (contradictoryVerbs? a b).isSome = true := by
        rw [hVerbs]
        rfl
      rcases isSome_contradictoryVerbs?_iff.mp hSome with
        ⟨⟨entity, hEntity, hOther⟩, x, y, hX, hY, hPair⟩
      exact .actions hA hB hEntity hOther hX hY hPair
    · cases h
  · intro h
    cases h with
    | values hA hB hEntity hField hOther hX hY hOpposite =>
        have hValues := isSome_conflictingValues?_iff.mpr
          ⟨hEntity, ⟨_, hField, hOther⟩, _, _, hX, hY,
            isSome_oppositeValues?_iff.mpr hOpposite⟩
        rcases Option.isSome_iff_exists.mp hValues with
          ⟨p, hPair⟩
        rcases isSome_target?_of_field hField with
          ⟨target, hTarget⟩
        simp [conflictFinding?, hA, hB, hPair, hTarget]
    | actions hA hB hEntity hOther hX hY hContradictory =>
        have hVerbs := isSome_contradictoryVerbs?_iff.mpr
          ⟨⟨_, hEntity, hOther⟩, _, _, hX, hY,
            hContradictory⟩
        rcases Option.isSome_iff_exists.mp hVerbs with
          ⟨p, hPair⟩
        simp [conflictFinding?, hA, hB, hPair, hEntity]

end Blueprint

------------------------------------------------------------
-- Constraints of Different Rules
------------------------------------------------------------

namespace Blueprint

/- Nothing is reported about compatible constraints. -/
theorem pairIssue?_eq_none_iff
    {rules : List Rule}
    {a b : Constraint}
    (hA : ∃ r, rules[a.ruleIndex]? = some r)
    (hB : ∃ s, rules[b.ruleIndex]? = some s) :
    pairIssue? rules a b = none ↔ a.Compatible b := by
  rcases hA with ⟨r, hR⟩
  rcases hB with ⟨s, hS⟩
  unfold pairIssue? Constraint.Compatible
  by_cases hSame : a.ruleIndex = b.ruleIndex
  · simp [hSame]
  · have hFinding : ∀ first second,
        conflictFinding? first second a b = none ↔
          ¬ a.Clashes b := by
      intro first second
      rw [← Option.not_isSome_iff_eq_none,
        isSome_conflictFinding?_iff]
    rw [if_neg hSame]
    simp [hR, hS, hSame, hFinding]

/- Every pair of constraints is reported on by itself. -/
theorem pairIssues_eq_nil_iff_pairwise
    {rules : List Rule}
    {cs : List Constraint} :
    pairIssues rules cs = [] ↔
      cs.Pairwise fun a b => pairIssue? rules a b = none := by
  induction cs with
  | nil => simp [pairIssues]
  | cons a rest ih =>
      rw [pairIssues, List.append_eq_nil_iff, ih,
        List.filterMap_eq_nil_iff, List.pairwise_cons]

/-
  Constraints of rules are reported on unless all of them
  are compatible.
-/
theorem pairIssues_eq_nil_iff
    {rules : List Rule}
    {cs : List Constraint}
    (hRules : ∀ c ∈ cs, ∃ r, rules[c.ruleIndex]? = some r) :
    pairIssues rules cs = [] ↔
      ∀ a ∈ cs, ∀ b ∈ cs, a.Compatible b := by
  have hPairs : cs.Pairwise
      (fun a b => pairIssue? rules a b = none) ↔
        cs.Pairwise Constraint.Compatible := by
    apply List.Pairwise.iff_of_mem
    intro a b hA hB
    exact pairIssue?_eq_none_iff (hRules a hA) (hRules b hB)
  have hSymm : Std.Symm Constraint.Compatible := by
    constructor
    intro a b hCompatible hApart hClash
    exact hCompatible hApart.symm hClash.symm
  rw [pairIssues_eq_nil_iff_pairwise, hPairs]
  constructor
  · intro hPairwise
    have hSelf : ∀ a ∈ cs, a.Compatible a := by
      intro a _ hApart
      exact absurd rfl hApart
    intro a hA b hB
    exact hPairwise.forall_of_forall hSelf hA hB
  · intro hAll
    exact List.pairwise_of_forall_mem_list hAll

/- Rules are warned of unless they are compatible. -/
theorem lacks_warning_conflictIssues_iff (spec : Spec) :
    Lacks .warning
        (conflictIssues spec (TypeEnv.ofSpec spec)) ↔
      ∀ a ∈ constraints spec spec.entityNames,
        ∀ b ∈ constraints spec spec.entityNames,
          a.Compatible b := by
  have hNames := constraints_congr
    (mem_entityNames_ofSpec_iff spec) spec
  have hRules : ∀ c ∈ constraints spec spec.entityNames,
      ∃ r, spec.rules[c.ruleIndex]? = some r := by
    intro c hMem
    exact exists_rule_of_mem_constraintsFrom
      (standFrom_zero spec.rules) hMem
  have hOverload := (reports_overloadIssues spec.rules
    (constraints spec spec.entityNames)).lacks
      (show ∀ c ∈ [Code.constraintFieldOverloaded],
        c.severity ≠ .warning by decide)
  unfold conflictIssues
  rw [hNames, lacks_append_iff, and_iff_left hOverload,
    (reports_pairIssues _ _).lacks_iff_eq_nil (by decide),
    pairIssues_eq_nil_iff hRules]

end Blueprint
