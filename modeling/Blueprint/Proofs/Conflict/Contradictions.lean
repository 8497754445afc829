import Blueprint.Proofs.Conflict.Clashes
import Blueprint.Proofs.Conflict.Exactness
import Blueprint.Proofs.Issue.Selection
import Blueprint.Proofs.OnePerCase
import Blueprint.Proofs.Prose.Mention
import Blueprint.Proofs.Verdict.Success

/-
  Contradictory actions are warned of once for every two
  rules that demand them of one entity. What the entity of a
  rule is depends on the rule and the names of the entities
  alone, and so does the warning.

  Main definitions:
    * `PointsTo`, `ConditionOn`
    * `Rule.ActsOn`, `Rule.ActsBy`
    * `Contradict`
    * `ReportsContradictions`

  Main statements:
    * `conditionSubject_entity_eq_some_iff`
    * `actionClash?_eq_some_iff`
    * `onePerCase_pairsOf`
    * `reportsContradictions_conflictIssues`
-/

------------------------------------------------------------
-- Entities of Conditions
------------------------------------------------------------

namespace Blueprint

open Text

/-
  A text points to the entity before its first dot, declared
  or not, or else to the declared entity that it names as a
  whole. Either is taken with a capital letter.
-/
inductive PointsTo
    (names : List String)
    (text : String) : String → Prop
| dotted
    {entity field : List Char}
    (written : text.toList = entity ++ '.' :: field)
    (first : '.' ∉ entity) :
    PointsTo names text (capitalized (trim entity))
| whole
    (plain : '.' ∉ text.toList)
    (declared : capitalized (trim text.toList) ∈ names) :
    PointsTo names text (capitalized (trim text.toList))

/-
  A condition refers to the entity that the subject of its
  comparison points to. If there is no such entity, it is
  the first one that the text mentions. A question to an AI
  refers to what its input points to.
-/
inductive ConditionOn
    (names : List String) :
    Option Condition → String → Prop
| subject
    {text n : String}
    {c : Comparison}
    (compares : Comparison.ofText? text = some c)
    (points : PointsTo names c.subject n) :
    ConditionOn names (some (.plain text)) n
| mention
    {text n : String}
    (unnamed : ∀ c m, Comparison.ofText? text = some c →
      ¬ PointsTo names c.subject m)
    (declared : n ∈ names)
    (mentions : MentionsFirst names n text) :
    ConditionOn names (some (.plain text)) n
| input
    {call : AiCall}
    {n : String}
    (points : PointsTo names call.input n) :
    ConditionOn names (some (.ai call)) n

variable {names : List String}
variable {text n : String}

/- The entity of a reference is what the text points to. -/
theorem entity_ofText_eq_some_iff :
    (Reference.ofText names text).entity = some n ↔
      PointsTo names text n := by
  by_cases hDot : '.' ∈ text.toList
  · constructor
    · intro h
      rcases List.eq_append_cons_of_mem hDot with
        ⟨entity, field, hText, hFirst⟩
      rw [entity_ofText_of_dotted names hText hFirst,
        Option.some.injEq] at h
      rw [← h]
      exact .dotted hText hFirst
    · intro h
      cases h with
      | dotted hText hFirst =>
          exact entity_ofText_of_dotted names hText hFirst
      | whole hPlain => exact absurd hDot hPlain
  · have hTrim : '.' ∉ trim text.toList := by
      intro hMem
      rcases exists_eq_append_trim text.toList with
        ⟨start, stop, hText, _⟩
      apply hDot
      rw [hText]
      simp [hMem]
    unfold Reference.ofText Reference.ofWord
    dsimp only
    rw [cutAt_eq_none_of_not_mem hTrim]
    dsimp only
    constructor
    · intro h
      split at h
      · rename_i hKnown
        cases h
        exact .whole hDot (by simpa using hKnown)
      · split at h
        · cases h
        · cases h
    · intro h
      cases h with
      | dotted hText => simp [hText] at hDot
      | whole _ hKnown => simp [hKnown]

/- Where no comparison points to an entity, one is mentioned. -/
theorem conditionSubject_plain_entity
    (names : List String)
    (text : String) :
    (conditionSubject names (some (.plain text))).entity =
      ((Comparison.ofText? text).bind fun c =>
        (Reference.ofText names c.subject).entity).or
          (mentionedEntity? names text) := by
  unfold conditionSubject comparisonSubject
  cases hCompares : Comparison.ofText? text with
  | none => simp [hCompares]
  | some c =>
      cases hSubject : (Reference.ofText names
          c.subject).entity with
      | none => simp [hCompares, hSubject]
      | some n => simp [hCompares, hSubject]

/- The subject of a condition is what it refers to. -/
theorem conditionSubject_entity_eq_some_iff
    {condition : Option Condition} :
    (conditionSubject names condition).entity = some n ↔
      ConditionOn names condition n := by
  cases condition with
  | none => exact ⟨nofun, nofun⟩
  | some condition =>
      cases condition with
      | ai call =>
          constructor
          · intro h
            exact .input (entity_ofText_eq_some_iff.mp h)
          · intro h
            cases h with
            | input hPoints =>
                exact entity_ofText_eq_some_iff.mpr hPoints
      | plain text =>
          rw [conditionSubject_plain_entity,
            Option.or_eq_some_iff, Option.bind_eq_some_iff,
            Option.bind_eq_none_iff,
            mentionedEntity?_eq_some_iff_mem]
          constructor
          · rintro (⟨c, hCompares, hEntity⟩ |
              ⟨hUnnamed, hDeclared, hMentions⟩)
            · exact .subject hCompares
                (entity_ofText_eq_some_iff.mp hEntity)
            · refine .mention ?_ hDeclared hMentions
              intro c m hCompares hPoints
              have hNone := hUnnamed c hCompares
              rw [entity_ofText_eq_some_iff.mpr hPoints]
                at hNone
              cases hNone
          · intro h
            cases h with
            | subject hCompares hPoints =>
                exact .inl ⟨_, hCompares,
                  entity_ofText_eq_some_iff.mpr hPoints⟩
            | mention hUnnamed hDeclared hMentions =>
                refine .inr ⟨?_, hDeclared, hMentions⟩
                intro c hCompares
                rw [Option.eq_none_iff_forall_ne_some]
                intro m hEntity
                exact hUnnamed c m hCompares
                  (entity_ofText_eq_some_iff.mp hEntity)

end Blueprint

------------------------------------------------------------
-- Actions of Rules
------------------------------------------------------------

namespace Blueprint

open Text

namespace Rule

/-
  A rule acts on the first entity that its action mentions,
  or else on the one that its own condition refers to.
-/
inductive ActsOn
    (names : List String)
    (r : Rule) : String → Prop
| action
    {action n : String}
    (acts : r.action = some action)
    (declared : n ∈ names)
    (mentions : MentionsFirst names n action) :
    ActsOn names r n
| condition
    {action n : String}
    (acts : r.action = some action)
    (unnamed : ∀ word ∈ words action.toList,
      capitalized word ∉ names)
    (subject : ConditionOn names r.condition n) :
    ActsOn names r n

/- The first word of the action is the verb, in lowercase. -/
def ActsBy
    (r : Rule)
    (verb : String) : Prop :=
  ∃ action word rest, r.action = some action ∧
    words action.toList = word :: rest ∧
      verb = String.ofList (lowercase word)

end Rule

/-
  Two rules contradict each other on an entity: they act on
  it with the two verbs of a pair, whichever has which.
-/
structure Contradict
    (names : List String)
    (r s : Rule)
    (p : String × String)
    (n : String) : Prop where
  table : p ∈ contradictions
  verbs :
    (r.ActsBy p.1 ∧ s.ActsBy p.2) ∨
      (r.ActsBy p.2 ∧ s.ActsBy p.1)
  first : r.ActsOn names n
  second : s.ActsOn names n

/-
  The warning about two rules, the later one second: at the
  place of the later one, with the rules in the order of
  their descriptions and the verbs in that of their pair.
-/
def contradictionIssue
    (r s : Rule)
    (p : String × String)
    (n : String) : Issue :=
  let (first, second) := sortedDescriptions r s
  .of
    (.warning
      (.constraintContradictoryActions first second p.1 p.2 n))
    s.location

variable {names : List String}
variable {r s : Rule}
variable {n : String}

/- The constraint of an action has its verb and its entity. -/
theorem exists_actionConstraint?_iff
    {verb : String} :
    (∃ a, actionConstraint? names 0 r = some a ∧
        a.entity = some n ∧ a.action = some verb) ↔
      r.ActsBy verb ∧ r.ActsOn names n := by
  have hVerb : ∀ action, actionVerb? action = some verb ↔
      ∃ word rest, words action.toList = word :: rest ∧
        verb = String.ofList (lowercase word) := by
    intro action
    unfold actionVerb?
    cases words action.toList with
    | nil => simp
    | cons word rest => simp [eq_comm]
  have hEntity : ∀ action, r.action = some action →
      (actionEntity? names
          (conditionSubject names r.condition) action =
            some n ↔ r.ActsOn names n) := by
    intro action hActs
    unfold actionEntity?
    rw [Option.or_eq_some_iff, mentionedEntity?_eq_some_iff_mem,
      mentionedEntity?_eq_none_iff,
      conditionSubject_entity_eq_some_iff]
    constructor
    · rintro (⟨hDeclared, hMentions⟩ | ⟨hUnnamed, hSubject⟩)
      · exact .action hActs hDeclared hMentions
      · exact .condition hActs hUnnamed hSubject
    · intro h
      cases h with
      | action hOther hDeclared hMentions =>
          rw [hActs, Option.some.injEq] at hOther
          rw [hOther]
          exact .inl ⟨hDeclared, hMentions⟩
      | condition hOther hUnnamed hSubject =>
          rw [hActs, Option.some.injEq] at hOther
          rw [hOther]
          exact .inr ⟨hUnnamed, hSubject⟩
  unfold actionConstraint? Rule.ActsBy
  cases hActs : r.action with
  | none => simp
  | some action => simp [hVerb, hEntity action hActs]

/- Verbs are contradictory on the same entity only. -/
theorem contradictoryVerbs?_eq_some_iff
    {a b : Constraint}
    {p : String × String} :
    contradictoryVerbs? a b = some p ↔
      ∃ n x y, a.entity = some n ∧ b.entity = some n ∧
        a.action = some x ∧ b.action = some y ∧
          oppositePair? contradictions x y = some p := by
  unfold contradictoryVerbs?
  cases hA : a.entity with
  | none => simp
  | some m =>
      rw [Option.ite_none_right_eq_some]
      cases a.action with
      | none => simp
      | some x =>
          cases b.action with
          | none => simp
          | some y => simp [eq_comm]

/- Rules contradict each other by verbs in either order. -/
theorem contradict_iff
    {p : String × String} :
    Contradict names r s p n ↔
      ∃ x y, oppositePair? contradictions x y = some p ∧
        (r.ActsBy x ∧ r.ActsOn names n) ∧
          (s.ActsBy y ∧ s.ActsOn names n) := by
  simp only [oppositePair?_contradictions_iff]
  constructor
  · intro h
    rcases h.verbs with ⟨hFirst, hSecond⟩ | ⟨hFirst, hSecond⟩
    · exact ⟨p.1, p.2, ⟨h.table, .inl ⟨rfl, rfl⟩⟩,
        ⟨hFirst, h.first⟩, hSecond, h.second⟩
    · exact ⟨p.2, p.1, ⟨h.table, .inr ⟨rfl, rfl⟩⟩,
        ⟨hFirst, h.first⟩, hSecond, h.second⟩
  · rintro ⟨x, y, ⟨hTable, hOrder⟩, ⟨hX, hFirst⟩, hY,
      hSecond⟩
    rcases hOrder with ⟨rfl, rfl⟩ | ⟨rfl, rfl⟩
    · exact ⟨hTable, .inl ⟨hX, hY⟩, hFirst, hSecond⟩
    · exact ⟨hTable, .inr ⟨hX, hY⟩, hFirst, hSecond⟩

/- Actions conflict by their verbs on one entity. -/
theorem conflictFinding?_of_actions
    {a b : Constraint}
    {first second : String}
    {finding : Finding}
    (hA : a.kind = .actionTrigger)
    (hB : b.kind = .actionTrigger) :
    conflictFinding? first second a b = some finding ↔
      ∃ p n x y, oppositePair? contradictions x y = some p ∧
        (a.entity = some n ∧ a.action = some x) ∧
          (b.entity = some n ∧ b.action = some y) ∧
            finding = .warning
              (.constraintContradictoryActions
                first second p.1 p.2 n) := by
  unfold conflictFinding?
  simp only [hA, hB, Option.bind_eq_some_iff,
    Option.map_eq_some_iff, contradictoryVerbs?_eq_some_iff]
  constructor
  · rintro ⟨p, ⟨n, x, y, hEntity, hSame, hX, hY, hPair⟩, m,
      hOther, rfl⟩
    rw [hEntity, Option.some.injEq] at hOther
    subst hOther
    exact ⟨p, n, x, y, hPair, ⟨hEntity, hX⟩, ⟨hSame, hY⟩,
      rfl⟩
  · rintro ⟨p, n, x, y, hPair, ⟨hEntity, hX⟩, ⟨hSame, hY⟩,
      rfl⟩
    exact ⟨p, ⟨n, x, y, hEntity, hSame, hX, hY, hPair⟩, n,
      hEntity, rfl⟩

/- Two actions clash when the rules contradict each other. -/
theorem actionClash?_eq_some_iff
    {i : Issue} :
    actionClash? names r s = some i ↔
      ∃ p n, Contradict names r s p n ∧
        i = contradictionIssue r s p n := by
  unfold actionClash?
  rw [clash?_eq_some_iff]
  simp only [contradict_iff, ← exists_actionConstraint?_iff]
  constructor
  · rintro ⟨a, b, finding, hA, hB, hFinding, rfl⟩
    rw [conflictFinding?_of_actions
      (kind_of_actionConstraint? hA)
      (kind_of_actionConstraint? hB)] at hFinding
    rcases hFinding with
      ⟨p, n, x, y, hPair, hFirst, hSecond, rfl⟩
    exact ⟨p, n, ⟨x, y, hPair, ⟨a, hA, hFirst⟩, b, hB,
      hSecond⟩, rfl⟩
  · rintro ⟨p, n, ⟨x, y, hPair, ⟨a, hA, hFirst⟩, b, hB,
      hSecond⟩, rfl⟩
    refine ⟨a, b, _, hA, hB, ?_, rfl⟩
    rw [conflictFinding?_of_actions
      (kind_of_actionConstraint? hA)
      (kind_of_actionConstraint? hB)]
    exact ⟨p, n, x, y, hPair, hFirst, hSecond, rfl⟩

end Blueprint

------------------------------------------------------------
-- Pairs of Rules
------------------------------------------------------------

namespace Blueprint

variable {α β : Type}

/-
  What is found pair by pair is one for each two places
  where something is found. The pairs of the first item have
  it at place zero, and all other places move up by one.
-/
theorem onePerCase_pairsOf
    (g : α × α → Option β)
    (items : List α) :
    OnePerCase
      (fun c : Nat × Nat => c.1 < c.2 ∧ ∃ a b x,
        items[c.1]? = some a ∧ items[c.2]? = some b ∧
          g (a, b) = some x)
      (fun c x => ∃ a b,
        items[c.1]? = some a ∧ items[c.2]? = some b ∧
          g (a, b) = some x)
      ((pairsOf items).filterMap g) := by
  induction items with
  | nil => exact onePerCase_nil (by simp)
  | cons a items ih =>
      let here : Nat → Nat × Nat := fun k => (0, k + 1)
      let later : Nat × Nat → Nat × Nat :=
        fun c => (c.1 + 1, c.2 + 1)
      have hHere : Function.Injective here := by
        intro k l hSame
        simpa [here] using hSame
      have hLater : Function.Injective later := by
        rintro ⟨i, j⟩ ⟨k, l⟩ hSame
        simpa [later] using hSame
      let tellsAll : Nat × Nat → β → Prop := fun c x =>
        ∃ d b, (a :: items)[c.1]? = some d ∧
          (a :: items)[c.2]? = some b ∧ g (d, b) = some x
      have hFirst := (onePerCase_filterMap
        (fun b => g (a, b)) items).mono (fun _ => Iff.rfl)
          fun k x ⟨b, hItem, hSome⟩ =>
            show tellsAll (here k) x from
              ⟨a, b, rfl, hItem, hSome⟩
      have hAll := OnePerCase.append_relabel hHere hLater
        (by simp [here, later]) hFirst ih
      rw [pairsOf, List.filterMap_append, List.filterMap_map]
      refine hAll.mono ?cases fun _ _ hTells => hTells
      case cases =>
          rintro ⟨i, j⟩
          cases i <;> cases j <;> simp [here, later]

end Blueprint

------------------------------------------------------------
-- Verdict on Contradictory Actions
------------------------------------------------------------

namespace Blueprint

/-
  What issues say about contradictory actions: they are one
  for each two rules that contradict each other, and what is
  said about two rules is said of them without the others.
-/
structure ReportsContradictions
    (spec : Spec)
    (issues : List Issue) : Prop where
  pairs :
    OnePerCase
      (fun c : Nat × Nat => c.1 < c.2 ∧ ∃ r s p n,
        spec.rules[c.1]? = some r ∧
          spec.rules[c.2]? = some s ∧
            Contradict spec.entityNames r s p n)
      (fun c i => ∃ r s p n,
        spec.rules[c.1]? = some r ∧
          spec.rules[c.2]? = some s ∧
            Contradict spec.entityNames r s p n ∧
              i = contradictionIssue r s p n)
      (withCodes [.constraintContradictoryActions] issues)
  apart :
    (withCodes [.constraintContradictoryActions] issues).Perm
      ((pairsOf spec.rules).flatMap fun p =>
        withCodes [.constraintContradictoryActions]
          (conflictIssues { spec with rules := [p.1, p.2] }
            (TypeEnv.ofSpec spec)))

/- The contradictions of two rules come from their actions. -/
theorem withCodes_clashes
    (names : List String)
    (p : Rule × Rule) :
    withCodes [.constraintContradictoryActions]
        (clashes names p) =
      (actionClash? names p.1 p.2).toList := by
  have hValues : withCodes [.constraintContradictoryActions]
      (valueClash? names p.1 p.2).toList = [] := by
    unfold withCodes
    rw [List.filter_eq_nil_iff]
    intro i hMem
    have hConflict := isValueConflict_of_valueClash?
      (Option.mem_toList.mp hMem)
    rw [beq_iff_eq.mp hConflict]
    decide
  have hActions : withCodes [.constraintContradictoryActions]
      (actionClash? names p.1 p.2).toList =
        (actionClash? names p.1 p.2).toList := by
    cases hClash : actionClash? names p.1 p.2 with
    | none => rfl
    | some i =>
        rcases actionClash?_eq_some_iff.mp hClash with
          ⟨q, n, _, rfl⟩
        simp [contradictionIssue, Matter.code]
  unfold clashes
  rw [withCodes_append, hValues, hActions, List.nil_append]

/- Overloaded fields are no contradictions. -/
theorem withCodes_overloadIssues
    (rules : List Rule)
    (cs : List Constraint) :
    withCodes [.constraintContradictoryActions]
      (overloadIssues rules cs) = [] :=
  (reports_overloadIssues rules cs).withCodes_eq_nil
    (by decide)

/- Actions clash alike among the same names of entities. -/
theorem actionClash?_ofSpec
    (spec : Spec)
    (r s : Rule) :
    actionClash? (TypeEnv.ofSpec spec).entityNames r s =
      actionClash? spec.entityNames r s := by
  have hSame := mem_entityNames_ofSpec_iff spec
  unfold actionClash? actionConstraint? actionEntity?
  simp only [conditionSubject_congr hSame,
    mentionedEntity?_congr hSame]

/- Every two rules answer for their own contradictions. -/
theorem withCodes_conflictIssues_perm (spec : Spec) :
    (withCodes [.constraintContradictoryActions]
        (conflictIssues spec (TypeEnv.ofSpec spec))).Perm
      ((pairsOf spec.rules).filterMap fun p =>
        actionClash? spec.entityNames p.1 p.2) := by
  have hPairs := filter_conflictIssues_perm
    withCodes_overloadIssues spec (TypeEnv.ofSpec spec)
  have hEach := withCodes_clashes
    (TypeEnv.ofSpec spec).entityNames
  unfold withCodes at hEach
  simp only [hEach, actionClash?_ofSpec] at hPairs
  rw [List.filterMap_eq_flatMap_toList]
  exact hPairs

/- Two rules alone have the contradiction of their actions. -/
theorem withCodes_conflictIssues_pair
    (spec : Spec)
    (p : Rule × Rule) :
    withCodes [.constraintContradictoryActions]
        (conflictIssues { spec with rules := [p.1, p.2] }
          (TypeEnv.ofSpec spec)) =
      (actionClash? spec.entityNames p.1 p.2).toList := by
  rw [← actionClash?_ofSpec]
  exact filter_conflictIssues_pair withCodes_overloadIssues
    spec (withCodes_clashes _ p)

end Blueprint
