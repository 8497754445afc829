import Blueprint.Check.Conflict
import Mathlib.Data.List.Perm.Basic

/-
  The conflicts of a specification, rule by rule: what is
  reported about pairs of constraints is what every two
  rules give, wherever they stand.

  Main definitions:
    * `pairsOf`
    * `sortedDescriptions`
    * `valueClash?`, `actionClash?`, `clashes`

  Main statements:
    * `pairIssues_constraints_perm`
    * `filter_conflictIssues_perm`
    * `filter_conflictIssues_pair`
-/

------------------------------------------------------------
-- Pairs
------------------------------------------------------------

namespace Blueprint

variable {α β : Type}

/- All pairs of items of a list, the earlier item first. -/
def pairsOf : List α → List (α × α)
| [] => []
| a :: rest => rest.map (a, ·) ++ pairsOf rest

/- The results of pairs are those of the first, then others. -/
theorem flatMap_pairsOf_cons
    (f : α × α → List β)
    (a : α)
    (rest : List α) :
    (pairsOf (a :: rest)).flatMap f =
      rest.flatMap (fun b => f (a, b)) ++
        (pairsOf rest).flatMap f := by
  rw [pairsOf, List.flatMap_append, List.flatMap_map]

end Blueprint

------------------------------------------------------------
-- Clashes of Two Rules
------------------------------------------------------------

namespace Blueprint

/- The descriptions of two rules in alphabetical order. -/
def sortedDescriptions (r s : Rule) : String × String :=
  if s.description < r.description then
    (s.description, r.description)
  else
    (r.description, s.description)

/-
  The issue of a demand of a rule and a demand of a later
  rule, if they conflict.
-/
def clash?
    (r s : Rule)
    (a? b? : Option Constraint) : Option Issue :=
  a?.bind fun a => b?.bind fun b =>
    let (first, second) := sortedDescriptions r s
    (conflictFinding? first second a b).map
      (.of · s.location)

/- The issue of the conditions of two rules. -/
def valueClash?
    (names : List String)
    (r s : Rule) : Option Issue :=
  clash? r s (conditionConstraint? names 0 r)
    (conditionConstraint? names 0 s)

/- The issue of the actions of two rules. -/
def actionClash?
    (names : List String)
    (r s : Rule) : Option Issue :=
  clash? r s (actionConstraint? names 0 r)
    (actionConstraint? names 0 s)

/- The issues of two rules, the earlier one first. -/
def clashes
    (names : List String)
    (p : Rule × Rule) : List Issue :=
  (valueClash? names p.1 p.2).toList ++
    (actionClash? names p.1 p.2).toList

end Blueprint

------------------------------------------------------------
-- Demands at a Place
------------------------------------------------------------

namespace Blueprint

/- The rules from a place on are the given ones. -/
def StandFrom
    (rules : List Rule)
    (place : Nat)
    (later : List Rule) : Prop :=
  ∀ n, rules[place + n]? = later[n]?

/- All rules stand from the first place on. -/
theorem standFrom_zero (rules : List Rule) :
    StandFrom rules 0 rules := by
  intro n
  rw [Nat.zero_add]

/- The first of the rules stands at the place. -/
theorem StandFrom.head
    {rules later : List Rule}
    {place : Nat}
    {r : Rule}
    (h : StandFrom rules place (r :: later)) :
    rules[place]? = some r :=
  h 0

/- The others stand from the next place on. -/
theorem StandFrom.tail
    {rules later : List Rule}
    {place : Nat}
    {r : Rule}
    (h : StandFrom rules place (r :: later)) :
    StandFrom rules (place + 1) later := by
  intro n
  rw [Nat.add_assoc, Nat.add_comm 1 n]
  exact h (n + 1)

/- The same demand of a rule at another place. -/
def Constraint.movedTo
    (c : Constraint)
    (index : Nat) : Constraint :=
  { c with ruleIndex := index }

/- The place of a rule does not change its condition. -/
theorem conditionConstraint?_eq_map_movedTo
    (names : List String)
    (index : Nat)
    (r : Rule) :
    conditionConstraint? names index r =
      (conditionConstraint? names 0 r).map
        (·.movedTo index) := by
  unfold conditionConstraint?
  rw [Option.map_map]
  rfl

/- The place of a rule does not change its action. -/
theorem actionConstraint?_eq_map_movedTo
    (names : List String)
    (index : Nat)
    (r : Rule) :
    actionConstraint? names index r =
      (actionConstraint? names 0 r).map
        (·.movedTo index) := by
  unfold actionConstraint?
  cases r.action with
  | none => rfl
  | some action =>
      rw [Option.bind_some, Option.bind_some, Option.map_map]
      rfl

/- The demands of a rule carry its place. -/
theorem ruleIndex_of_mem_constraintsOfRule
    {names : List String}
    {index : Nat}
    {r : Rule}
    {c : Constraint}
    (h : c ∈ constraintsOfRule names index r) :
    c.ruleIndex = index := by
  rw [constraintsOfRule, conditionConstraint?_eq_map_movedTo,
    actionConstraint?_eq_map_movedTo] at h
  simp only [List.mem_append, Option.mem_toList,
    Option.map_eq_some_iff] at h
  rcases h with ⟨_, _, rfl⟩ | ⟨_, _, rfl⟩
  · rfl
  · rfl

/- A condition is no action. -/
theorem kind_of_conditionConstraint?
    {names : List String}
    {index : Nat}
    {r : Rule}
    {c : Constraint}
    (h : conditionConstraint? names index r = some c) :
    c.kind ≠ .actionTrigger := by
  rcases Option.map_eq_some_iff.mp h with
    ⟨⟨kind, text⟩, hDemand, rfl⟩
  unfold conditionDemand? at hDemand
  split at hDemand
  · rcases Option.map_eq_some_iff.mp hDemand with
      ⟨_, _, hPair⟩
    cases hPair
    exact nofun
  · cases hDemand
    exact nofun
  · cases hDemand

/- An action is one. -/
theorem kind_of_actionConstraint?
    {names : List String}
    {index : Nat}
    {r : Rule}
    {c : Constraint}
    (h : actionConstraint? names index r = some c) :
    c.kind = .actionTrigger := by
  rcases Option.bind_eq_some_iff.mp h with
    ⟨action, _, hMap⟩
  rcases Option.map_eq_some_iff.mp hMap with
    ⟨verb, _, rfl⟩
  rfl

/- A condition and an action never conflict. -/
theorem conflictFinding?_eq_none_of_kind
    {first second : String}
    {a b : Constraint}
    (hKind :
      a.kind = .actionTrigger ↔ b.kind ≠ .actionTrigger) :
    conflictFinding? first second a b = none := by
  unfold conflictFinding?
  cases hA : a.kind <;> cases hB : b.kind <;>
    simp [hA, hB] at hKind ⊢

/- Demands of two places conflict as their rules do. -/
theorem pairIssue?_movedTo
    {rules : List Rule}
    {r s : Rule}
    {i j : Nat}
    (hFirst : rules[i]? = some r)
    (hSecond : rules[j]? = some s)
    (hOrder : i < j)
    (a b : Constraint) :
    pairIssue? rules (a.movedTo i) (b.movedTo j) =
      clash? r s (some a) (some b) := by
  have hApart : i ≠ j := Nat.ne_of_lt hOrder
  unfold pairIssue? clash? sortedDescriptions
  simp only [Constraint.movedTo, hApart, if_false, hFirst,
    hSecond, hOrder, if_true]
  rfl

end Blueprint

------------------------------------------------------------
-- All Clashes
------------------------------------------------------------

namespace Blueprint

variable {names : List String}
variable {rules : List Rule}

/- The demands of one rule do not conflict with each other. -/
theorem pairIssues_append
    {index : Nat}
    {group : List Constraint}
    (rest : List Constraint)
    (hGroup : ∀ a ∈ group, a.ruleIndex = index) :
    pairIssues rules (group ++ rest) =
      group.flatMap
          (fun a => rest.filterMap (pairIssue? rules a)) ++
        pairIssues rules rest := by
  induction group with
  | nil => rfl
  | cons a group ih =>
      have hSame : group.filterMap (pairIssue? rules a) =
          [] := by
        rw [List.filterMap_eq_nil_iff]
        intro b hMem
        have hA := hGroup a List.mem_cons_self
        have hB := hGroup b (List.mem_cons_of_mem _ hMem)
        rw [pairIssue?, if_pos (hA.trans hB.symm)]
      have hRest := ih fun b hMem =>
        hGroup b (List.mem_cons_of_mem _ hMem)
      rw [List.cons_append, pairIssues, hRest,
        List.filterMap_append, hSame, List.nil_append,
        List.flatMap_cons, List.append_assoc]

/-
  A demand meets the demands of all later rules. The
  induction keeps to the place of the first of them.
-/
theorem filterMap_pairIssue?_constraintsFrom
    {r : Rule}
    {i k : Nat}
    (hFirst : rules[i]? = some r)
    (hOrder : i < k)
    (a : Constraint)
    (later : List Rule)
    (hLater : StandFrom rules k later) :
    (constraintsFrom names k later).filterMap
        (pairIssue? rules (a.movedTo i)) =
      later.flatMap fun s =>
        (clash? r s (some a)
          (conditionConstraint? names 0 s)).toList ++
        (clash? r s (some a)
          (actionConstraint? names 0 s)).toList := by
  induction later generalizing k with
  | nil => rfl
  | cons s later ih =>
      have hRest := ih (Nat.lt_succ_of_lt hOrder) hLater.tail
      have hDemand : ∀ b? : Option Constraint,
          (b?.map (·.movedTo k)).toList.filterMap
              (pairIssue? rules (a.movedTo i)) =
            (clash? r s (some a) b?).toList := by
        intro b?
        cases b? with
        | none => rfl
        | some b =>
            have hPair :=
              pairIssue?_movedTo hFirst hLater.head hOrder a b
            cases hClash : clash? r s (some a) (some b) with
            | none => simp [hPair, hClash]
            | some i => simp [hPair, hClash]
      rw [constraintsFrom, List.filterMap_append, hRest,
        constraintsOfRule, List.filterMap_append,
        conditionConstraint?_eq_map_movedTo,
        actionConstraint?_eq_map_movedTo, hDemand, hDemand,
        List.flatMap_cons]

/- The same, for a rule that may demand nothing. -/
theorem flatMap_pairIssue?_constraintsFrom
    (names : List String)
    {r : Rule}
    {i k : Nat}
    (hFirst : rules[i]? = some r)
    (hOrder : i < k)
    (a? : Option Constraint)
    (later : List Rule)
    (hLater : StandFrom rules k later) :
    (a?.map (·.movedTo i)).toList.flatMap
        (fun a => (constraintsFrom names k later).filterMap
          (pairIssue? rules a)) =
      later.flatMap fun s =>
        (clash? r s a?
          (conditionConstraint? names 0 s)).toList ++
        (clash? r s a?
          (actionConstraint? names 0 s)).toList := by
  cases a? with
  | none => simp [clash?]
  | some a =>
      rw [Option.map_some, Option.toList_some,
        List.flatMap_singleton]
      exact filterMap_pairIssue?_constraintsFrom
        hFirst hOrder a later hLater

/- A condition and an action never clash. -/
theorem clash?_eq_none_of_kind
    {r s : Rule}
    {a? b? : Option Constraint}
    (hKind : ∀ a b, a? = some a → b? = some b →
      (a.kind = .actionTrigger ↔
        b.kind ≠ .actionTrigger)) :
    clash? r s a? b? = none := by
  cases a? with
  | none => rfl
  | some a =>
      cases b? with
      | none => rfl
      | some b =>
          have hNone : ∀ first second,
              conflictFinding? first second a b = none := by
            intro first second
            exact conflictFinding?_eq_none_of_kind
              (hKind a b rfl rfl)
          simp [clash?, hNone]

/- A condition does not clash with an action. -/
theorem clash?_condition_action (r s : Rule) :
    clash? r s (conditionConstraint? names 0 r)
      (actionConstraint? names 0 s) = none := by
  apply clash?_eq_none_of_kind
  intro a b hA hB
  simp [kind_of_conditionConstraint? hA,
    kind_of_actionConstraint? hB]

/- An action does not clash with a condition. -/
theorem clash?_action_condition (r s : Rule) :
    clash? r s (actionConstraint? names 0 r)
      (conditionConstraint? names 0 s) = none := by
  apply clash?_eq_none_of_kind
  intro a b hA hB
  simp [kind_of_actionConstraint? hA,
    kind_of_conditionConstraint? hB]

/-
  The rules from some place on report what every two of them
  give. The induction follows the place of the first one.
-/
theorem pairIssues_constraintsFrom_perm
    (k : Nat)
    (later : List Rule)
    (hLater : StandFrom rules k later) :
    (pairIssues rules (constraintsFrom names k later)).Perm
      ((pairsOf later).flatMap (clashes names)) := by
  induction later generalizing k with
  | nil => exact List.Perm.nil
  | cons r later ih =>
      have hGroup : ∀ a ∈ constraintsOfRule names k r,
          a.ruleIndex = k := by
        intro a hMem
        exact ruleIndex_of_mem_constraintsOfRule hMem
      have hConditions := flatMap_pairIssue?_constraintsFrom
        names hLater.head (Nat.lt_succ_self k)
        (conditionConstraint? names 0 r) later hLater.tail
      have hActions := flatMap_pairIssue?_constraintsFrom
        names hLater.head (Nat.lt_succ_self k)
        (actionConstraint? names 0 r) later hLater.tail
      simp only [clash?_condition_action, Option.toList_none,
        List.append_nil] at hConditions
      simp only [clash?_action_condition, Option.toList_none,
        List.nil_append] at hActions
      rw [constraintsFrom, pairIssues_append _ hGroup,
        constraintsOfRule,
        conditionConstraint?_eq_map_movedTo,
        actionConstraint?_eq_map_movedTo,
        List.flatMap_append, hConditions, hActions,
        flatMap_pairsOf_cons]
      apply List.Perm.append
      · exact List.flatMap_append_perm later _ _
      · exact ih (k + 1) hLater.tail

/-
  The pairs of constraints of a specification report what
  every two of its rules give.
-/
theorem pairIssues_constraints_perm
    (spec : Spec)
    (names : List String) :
    (pairIssues spec.rules (constraints spec names)).Perm
      ((pairsOf spec.rules).flatMap (clashes names)) := by
  exact pairIssues_constraintsFrom_perm 0 spec.rules
    (standFrom_zero spec.rules)

/-
  Issues of a kind that no overloaded field has are those
  that every two rules give.
-/
theorem filter_conflictIssues_perm
    {kind : Issue → Bool}
    (hOverload : ∀ rules cs,
      (overloadIssues rules cs).filter kind = [])
    (spec : Spec)
    (env : TypeEnv) :
    ((conflictIssues spec env).filter kind).Perm
      ((pairsOf spec.rules).flatMap fun p =>
        (clashes env.entityNames p).filter kind) := by
  unfold conflictIssues
  rw [List.filter_append, hOverload, List.append_nil,
    ← List.filter_flatMap]
  exact (pairIssues_constraints_perm spec _).filter kind

/- Two rules alone have the issue of the kind that they give. -/
theorem filter_conflictIssues_pair
    {kind : Issue → Bool}
    (hOverload : ∀ rules cs,
      (overloadIssues rules cs).filter kind = [])
    (spec : Spec)
    {env : TypeEnv}
    {p : Rule × Rule}
    {clash : Option Issue}
    (hClash : (clashes env.entityNames p).filter kind =
      clash.toList) :
    (conflictIssues { spec with rules := [p.1, p.2] }
      env).filter kind = clash.toList := by
  have hPairs := filter_conflictIssues_perm hOverload
    { spec with rules := [p.1, p.2] } env
  have hOne : (pairsOf [p.1, p.2]).flatMap (fun q =>
      (clashes env.entityNames q).filter kind) =
        clash.toList := by
    simp [pairsOf, hClash]
  rw [hOne] at hPairs
  cases clash with
  | none => exact List.perm_nil.mp hPairs
  | some i => exact List.perm_singleton.mp hPairs

end Blueprint
