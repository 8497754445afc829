import Blueprint.Proofs.Conflict.Contradictions
import Blueprint.Proofs.Text.Uppercase

/-
  Overloaded fields are noted once each. The constraints are
  grouped by the rendered path of the field, but no entity
  that a rule refers to has a dot in its name, so the groups
  are those of the fields: a field is noted exactly when too
  many rules test it, with their number, at the first rule.

  Main definitions:
    * `PointsToField`
    * `Rule.Tests`
    * `testers`, `testedFields`
    * `ReportsOverloads`

  Main statements:
    * `field_ofText_eq_some_iff`
    * `tested?_eq_some_iff`
    * `fieldPath_inj`
    * `map_counted_constraintsFrom`
    * `reportsOverloads_conflictIssues`
-/

------------------------------------------------------------
-- Tested Fields
------------------------------------------------------------

namespace Blueprint

open Text

/-
  A text points to the field behind its first dot, or to the
  one that it names as a whole, unless that is an entity.
-/
inductive PointsToField
    (names : List String)
    (text : String) : String → Prop
| dotted
    {entity field : List Char}
    (written : text.toList = entity ++ '.' :: field)
    (first : '.' ∉ entity)
    (present : trim field ≠ []) :
    PointsToField names text (String.ofList (trim field))
| whole
    (plain : '.' ∉ text.toList)
    (undeclared : capitalized (trim text.toList) ∉ names)
    (present : trim text.toList ≠ []) :
    PointsToField names text
      (String.ofList (trim text.toList))

/-
  A rule tests a field of an entity: its condition compares
  the field with a value, or asks an AI about it, and refers
  to the entity. Its action does not matter.
-/
inductive Rule.Tests
    (names : List String)
    (r : Rule) : String → String → Prop
| value
    {text n f : String}
    {c : Comparison}
    (condition : r.condition = some (.plain text))
    (compares : Comparison.ofText? text = some c)
    (entity : ConditionOn names r.condition n)
    (field : PointsToField names c.subject f) :
    Tests names r n f
| question
    {call : AiCall}
    {n f : String}
    (condition : r.condition = some (.ai call))
    (entity : ConditionOn names r.condition n)
    (field : PointsToField names call.input f) :
    Tests names r n f

/- The entity and the field of the condition of a rule. -/
def tested?
    (names : List String)
    (r : Rule) : Option (String × String) :=
  (conditionConstraint? names 0 r).bind fun c =>
    c.entity.bind fun n => c.field.map fun f => (n, f)

variable {names : List String}
variable {text n f : String}
variable {r : Rule}

/- The field of a reference is what the text points to. -/
theorem field_ofText_eq_some_iff :
    (Reference.ofText names text).field = some f ↔
      PointsToField names text f := by
  by_cases hDot : '.' ∈ text.toList
  · constructor
    · intro h
      rcases List.eq_append_cons_of_mem hDot with
        ⟨entity, field, hText, hFirst⟩
      rw [ofText_of_dotted names hText hFirst] at h
      dsimp only at h
      split at h
      · cases h
      · rename_i hSome
        cases h
        exact .dotted hText hFirst (by simpa using hSome)
    · intro h
      cases h with
      | dotted hText hFirst hSome =>
          rw [ofText_of_dotted names hText hFirst]
          simp [hSome]
      | whole hPlain => exact absurd hDot hPlain
  · have hTrim : '.' ∉ trim text.toList := by
      intro hMem
      exact hDot ((trim_isInfix text.toList).subset hMem)
    unfold Reference.ofText Reference.ofWord
    dsimp only
    rw [cutAt_eq_none_of_not_mem hTrim]
    dsimp only
    constructor
    · intro h
      split at h
      · cases h
      · rename_i hUnknown
        split at h
        · cases h
        · rename_i hSome
          cases h
          exact .whole hDot (by simpa using hUnknown)
            (by simpa using hSome)
    · intro h
      cases h with
      | dotted hText => simp [hText] at hDot
      | whole _ hUnknown hSome => simp [hUnknown, hSome]

/- A comparison is about the field of its subject. -/
theorem comparisonSubject_field
    (names : List String)
    (text : String)
    (c : Comparison) :
    (comparisonSubject names text c).field =
      (Reference.ofText names c.subject).field := by
  unfold comparisonSubject
  dsimp only
  split <;> rfl

/- A rule that demands something tests what it is about. -/
theorem tested?_eq_some_iff_of_demand :
    tested? names r = some (n, f) ↔
      (conditionDemand? r.condition).isSome = true ∧
        (conditionSubject names r.condition).entity = some n ∧
        (conditionSubject names r.condition).field =
          some f := by
  unfold tested? conditionConstraint?
  cases conditionDemand? r.condition with
  | none => simp
  | some demand =>
      simp only [Option.map_some, Option.bind_some,
        Option.bind_eq_some_iff, Option.map_eq_some_iff,
        Option.isSome_some, true_and]
      simp

/- What a rule tests is what its condition is about. -/
theorem tested?_eq_some_iff :
    tested? names r = some (n, f) ↔ r.Tests names n f := by
  rw [tested?_eq_some_iff_of_demand,
    conditionSubject_entity_eq_some_iff]
  constructor
  · rintro ⟨hDemand, hOn, hField⟩
    cases hCondition : r.condition with
    | none =>
        rw [hCondition] at hDemand
        cases hDemand
    | some condition =>
        rw [hCondition] at hDemand hField
        cases condition with
        | ai call =>
            exact .question hCondition hOn
              (field_ofText_eq_some_iff.mp hField)
        | plain text =>
            cases hCompares : Comparison.ofText? text with
            | none => simp [conditionDemand?, hCompares]
                at hDemand
            | some c =>
                simp only [conditionSubject, hCompares,
                  comparisonSubject_field] at hField
                exact .value hCondition hCompares hOn
                  (field_ofText_eq_some_iff.mp hField)
  · intro h
    cases h with
    | value hCondition hCompares hOn hPoints =>
        have hField := field_ofText_eq_some_iff.mpr hPoints
        refine ⟨?_, hOn, ?_⟩
        · simp [hCondition, conditionDemand?, hCompares]
        · simp [hCondition, conditionSubject, hCompares,
            comparisonSubject_field, hField]
    | question hCondition hOn hPoints =>
        have hField := field_ofText_eq_some_iff.mpr hPoints
        refine ⟨?_, hOn, ?_⟩
        · simp [hCondition, conditionDemand?]
        · simp [hCondition, conditionSubject, hField]

instance
    (names : List String)
    (r : Rule)
    (n f : String) :
    Decidable (r.Tests names n f) :=
  decidable_of_iff _ tested?_eq_some_iff

end Blueprint

------------------------------------------------------------
-- Paths of Fields
------------------------------------------------------------

namespace Blueprint

open Text

variable {names : List String}
variable {text n f : String}
variable {r : Rule}

/- The path of a field of an entity. -/
def fieldPath (p : String × String) : String :=
  p.1 ++ "." ++ p.2

/- A capitalized text has no dots of its own. -/
theorem dot_not_mem_capitalized
    {text : List Char}
    (h : '.' ∉ text) :
    '.' ∉ (capitalized text).toList := by
  rw [capitalized, String.toList_ofList]
  exact dot_not_mem_capitalize h

/- A mentioned entity has no dot: it is a word. -/
theorem MentionsFirst.undotted
    (h : MentionsFirst names n text) :
    '.' ∉ n.toList := by
  rcases h with ⟨before, word, after, hText, rfl, _⟩
  apply dot_not_mem_capitalized
  have hWord : word ∈ words text.toList := by
    rw [hText]
    exact List.mem_append_right _ List.mem_cons_self
  intro hDot
  have hAll := List.all_eq_true.mp
    (all_isWordChar_of_mem_words hWord) '.' hDot
  revert hAll
  decide

/- The entity that a text points to has no dot. -/
theorem PointsTo.undotted
    (h : PointsTo names text n) :
    '.' ∉ n.toList := by
  cases h with
  | dotted hText hFirst =>
      apply dot_not_mem_capitalized
      intro hMem
      exact hFirst ((trim_isInfix _).subset hMem)
  | whole hPlain =>
      apply dot_not_mem_capitalized
      intro hMem
      exact hPlain ((trim_isInfix _).subset hMem)

/- The entity of a condition has no dot. -/
theorem ConditionOn.undotted
    {condition : Option Condition}
    (h : ConditionOn names condition n) :
    '.' ∉ n.toList := by
  cases h with
  | subject _ hPoints => exact hPoints.undotted
  | mention _ _ hMentions => exact hMentions.undotted
  | input hPoints => exact hPoints.undotted

/- No entity of a constraint has a dot in its name. -/
theorem undotted_of_mem_constraintsOfRule
    {k : Nat}
    {c : Constraint}
    (h : c ∈ constraintsOfRule names k r)
    (hEntity : c.entity = some n) :
    '.' ∉ n.toList := by
  rw [constraintsOfRule, List.mem_append, Option.mem_toList,
    Option.mem_toList] at h
  rcases h with hCondition | hAction
  · rcases Option.map_eq_some_iff.mp hCondition with
      ⟨demand, _, rfl⟩
    exact (conditionSubject_entity_eq_some_iff.mp
      hEntity).undotted
  · rcases Option.bind_eq_some_iff.mp hAction with
      ⟨action, _, hVerb⟩
    rcases Option.map_eq_some_iff.mp hVerb with ⟨_, _, rfl⟩
    dsimp only at hEntity
    rw [actionEntity?, Option.or_eq_some_iff,
      mentionedEntity?_eq_some_iff_mem] at hEntity
    rcases hEntity with ⟨_, hMentions⟩ | ⟨_, hSubject⟩
    · exact hMentions.undotted
    · exact (conditionSubject_entity_eq_some_iff.mp
        hSubject).undotted

theorem undotted_of_mem_constraintsFrom
    {k : Nat}
    {rules : List Rule}
    {c : Constraint}
    (h : c ∈ constraintsFrom names k rules)
    (hEntity : c.entity = some n) :
    '.' ∉ n.toList := by
  induction rules generalizing k with
  | nil => cases h
  | cons r rules ih =>
      rcases List.mem_append.mp h with hHere | hRest
      · exact undotted_of_mem_constraintsOfRule hHere hEntity
      · exact ih hRest

/- A tested field is one of an entity without a dot. -/
theorem Rule.Tests.undotted
    (h : r.Tests names n f) :
    '.' ∉ n.toList := by
  cases h with
  | value _ _ hOn => exact hOn.undotted
  | question _ hOn => exact hOn.undotted

/- Entities without dots and their fields make a path once. -/
theorem fieldPath_inj
    {p q : String × String}
    (hFirst : '.' ∉ p.1.toList)
    (hSecond : '.' ∉ q.1.toList)
    (hSame : fieldPath p = fieldPath q) :
    p = q := by
  have hText : p.1.toList ++ '.' :: p.2.toList =
      q.1.toList ++ '.' :: q.2.toList := by
    have hPaths := congrArg String.toList hSame
    simpa [fieldPath] using hPaths
  have hCut := congrArg (cutAt (· == '.')) hText
  rw [cutAt_append_cons_of_not_mem _ hFirst,
    cutAt_append_cons_of_not_mem _ hSecond] at hCut
  simp only [Option.some.injEq, Prod.mk.injEq,
    String.toList_inj] at hCut
  exact Prod.ext hCut.1 hCut.2

end Blueprint

------------------------------------------------------------
-- Counted Conditions
------------------------------------------------------------

namespace Blueprint

variable {names : List String}
variable {rules : List Rule}

/- The rules that test a field, in order. -/
def testers
    (names : List String)
    (rules : List Rule)
    (p : String × String) : List Rule :=
  rules.filter fun r => decide (r.Tests names p.1 p.2)

/- A rule is counted under the path of the field it tests. -/
theorem bind_countedTarget?_conditionConstraint?
    (names : List String)
    (k : Nat)
    (r : Rule) :
    (conditionConstraint? names k r).bind countedTarget? =
      (tested? names r).bind fun p =>
        (conditionConstraint? names k r).map fun c =>
          (fieldPath p, c) := by
  unfold tested?
  rw [conditionConstraint?_eq_map_movedTo names k]
  cases hCondition : conditionConstraint? names 0 r with
  | none => rfl
  | some c =>
      have hKind := kind_of_conditionConstraint? hCondition
      rcases c with ⟨kind, entity, field, _, _, _⟩
      cases entity with
      | none => cases kind <;> rfl
      | some n =>
          cases field with
          | none => cases kind <;> rfl
          | some f =>
              cases kind with
              | fieldValue | aiCondition => rfl
              | actionTrigger => exact absurd rfl hKind

/- An action is not counted. -/
theorem bind_countedTarget?_actionConstraint?
    (names : List String)
    (k : Nat)
    (r : Rule) :
    (actionConstraint? names k r).bind countedTarget? =
      none := by
  rw [Option.bind_eq_none_iff]
  intro c hAction
  unfold countedTarget?
  rw [kind_of_actionConstraint? hAction]

/- What is counted of a rule is what its condition tests. -/
theorem filterMap_constraintsOfRule
    (names : List String)
    (k : Nat)
    (r : Rule) :
    (constraintsOfRule names k r).filterMap countedTarget? =
      ((tested? names r).bind fun p =>
        (conditionConstraint? names k r).map fun c =>
          (fieldPath p, c)).toList := by
  have hList : ∀ c? : Option Constraint,
      c?.toList.filterMap countedTarget? =
        (c?.bind countedTarget?).toList := by
    intro c?
    cases c? with
    | none => rfl
    | some c => cases hTarget : countedTarget? c <;> simp [hTarget]
  rw [constraintsOfRule, List.filterMap_append, hList, hList,
    bind_countedTarget?_actionConstraint?,
    bind_countedTarget?_conditionConstraint?,
    Option.toList_none, List.append_nil]

/- What a rule tests is a constraint that has its place. -/
theorem exists_conditionConstraint?_of_tested?
    {r : Rule}
    {p : String × String}
    (k : Nat)
    (h : tested? names r = some p) :
    ∃ c, conditionConstraint? names k r = some c ∧
      c.ruleIndex = k := by
  rcases Option.bind_eq_some_iff.mp h with ⟨c, hCondition, _⟩
  refine ⟨c.movedTo k, ?_, rfl⟩
  rw [conditionConstraint?_eq_map_movedTo, hCondition]
  rfl

/-
  The rules that are counted, each under the path of the
  field that it tests. The induction follows the place of
  the first rule.
-/
theorem map_counted_constraintsFrom
    (names : List String)
    {later : List Rule}
    {k : Nat}
    (hLater : StandFrom rules k later) :
    ((constraintsFrom names k later).filterMap
        countedTarget?).map
        (fun p => (p.1, rules[p.2.ruleIndex]?)) =
      later.filterMap fun r =>
        (tested? names r).map fun p =>
          (fieldPath p, some r) := by
  induction later generalizing k with
  | nil => rfl
  | cons r later ih =>
      have hHere :
          ((constraintsOfRule names k r).filterMap
              countedTarget?).map
              (fun p => (p.1, rules[p.2.ruleIndex]?)) =
            ((tested? names r).map fun p =>
              (fieldPath p, some r)).toList := by
        rw [filterMap_constraintsOfRule]
        cases hTested : tested? names r with
        | none => rfl
        | some p =>
            rcases exists_conditionConstraint?_of_tested? k
              hTested with ⟨c, hCondition, hPlace⟩
            simp [hCondition, hPlace, hLater.head]
      rw [constraintsFrom, List.filterMap_append,
        List.map_append, hHere, ih hLater.tail]
      cases hTested : tested? names r with
      | none => simp [hTested]
      | some p => simp [hTested]

end Blueprint

------------------------------------------------------------
-- Fields in Order
------------------------------------------------------------

namespace Blueprint

/- The conditions of rules under the paths of their fields. -/
def countedConditions
    (names : List String)
    (rules : List Rule) : List (String × Constraint) :=
  (constraintsFrom names 0 rules).filterMap countedTarget?

/- The fields that are tested, in the order of their paths. -/
def testedFields
    (names : List String)
    (rules : List Rule) : List (String × String) :=
  (sortedTargets (countedConditions names rules)).filterMap
    fun path => (rules.filterMap (tested? names)).find?
      fun p => fieldPath p == path

variable {names : List String}
variable {rules : List Rule}
variable {p : String × String}

/- The paths that are counted are those of tested fields. -/
theorem mem_sortedTargets_iff
    {path : String} :
    path ∈ sortedTargets (countedConditions names rules) ↔
      ∃ p ∈ rules.filterMap (tested? names),
        fieldPath p = path := by
  have hSame : (countedConditions names rules).map Prod.fst =
      (rules.filterMap (tested? names)).map fieldPath := by
    have hPaths := congrArg (List.map Prod.fst)
      (map_counted_constraintsFrom names
        (standFrom_zero rules))
    simpa [countedConditions, List.map_filterMap,
      Function.comp_def] using hPaths
  rw [sortedTargets, mem_sortNames_iff, mem_map_firsts_iff,
    ← List.mem_map, hSame, List.mem_map]

/- Every path that is counted is that of a tested field. -/
theorem map_fieldPath_testedFields
    (names : List String)
    (rules : List Rule) :
    (testedFields names rules).map fieldPath =
      sortedTargets (countedConditions names rules) := by
  unfold testedFields
  rw [List.map_filterMap]
  conv_rhs => rw [← List.filterMap_some
    (l := sortedTargets (countedConditions names rules))]
  apply List.filterMap_congr
  intro path hMem
  rcases mem_sortedTargets_iff.mp hMem with ⟨p, hP, hPath⟩
  cases hFind : (rules.filterMap (tested? names)).find?
      fun p => fieldPath p == path with
  | none =>
      have hNone := List.find?_eq_none.mp hFind p hP
      simp [hPath] at hNone
  | some q =>
      have hFound := List.find?_some hFind
      simpa using hFound

/- The tested fields are those that some rule tests. -/
theorem mem_testedFields_iff :
    p ∈ testedFields names rules ↔
      ∃ r ∈ rules, r.Tests names p.1 p.2 := by
  have hTested : (∃ r ∈ rules, r.Tests names p.1 p.2) ↔
      p ∈ rules.filterMap (tested? names) := by
    simp only [List.mem_filterMap, ← tested?_eq_some_iff]
  have hUndotted : ∀ q ∈ rules.filterMap (tested? names),
      '.' ∉ q.1.toList := by
    intro q hQ
    rcases List.mem_filterMap.mp hQ with ⟨r, _, hTests⟩
    exact (tested?_eq_some_iff.mp hTests).undotted
  rw [hTested]
  constructor
  · intro h
    rcases List.mem_filterMap.mp h with ⟨path, _, hFind⟩
    exact List.mem_of_find?_eq_some hFind
  · intro h
    have hPath : fieldPath p ∈
        (testedFields names rules).map fieldPath := by
      rw [map_fieldPath_testedFields]
      exact mem_sortedTargets_iff.mpr ⟨p, h, rfl⟩
    rcases List.mem_map.mp hPath with ⟨q, hQ, hSame⟩
    rcases List.mem_filterMap.mp hQ with ⟨path, _, hFind⟩
    have hOther := List.mem_of_find?_eq_some hFind
    rw [fieldPath_inj (hUndotted q hOther) (hUndotted p h)
      hSame] at hQ
    exact hQ

/- The tested fields stand in the order of their paths. -/
theorem testedFields_pairwise
    (names : List String)
    (rules : List Rule) :
    (testedFields names rules).Pairwise
      (fun p q => fieldPath p < fieldPath q) := by
  rw [← List.pairwise_map, map_fieldPath_testedFields,
    sortedTargets]
  have hOnce : (sortNames ((firsts Prod.fst
      (countedConditions names rules)).map
        Prod.fst)).Pairwise (· ≠ ·) :=
    (sortNames_perm _).nodup_iff.mpr (nodup_map_firsts _ _)
  apply List.Pairwise.imp₂ _ (sortNames_pairwise _) hOnce
  intro a b hLe hNe
  rw [← String.not_le]
  intro hGe
  exact hNe (String.le_antisymm hLe hGe)

/- The rules under the path of a field are its testers. -/
theorem map_snd_filter_tested
    (hPath : '.' ∉ p.1.toList)
    (rules : List Rule) :
    ((rules.filterMap fun r =>
        (tested? names r).map fun q =>
          (fieldPath q, some r)).filter
        fun q => q.1 == fieldPath p).map Prod.snd =
      (testers names rules p).map some := by
  unfold testers
  induction rules with
  | nil => rfl
  | cons r rules ih =>
      have hTests : tested? names r = some p ↔
          r.Tests names p.1 p.2 :=
        tested?_eq_some_iff
      cases hTested : tested? names r with
      | none =>
          rw [hTested] at hTests
          have hNone : ¬ r.Tests names p.1 p.2 :=
            fun h => nomatch hTests.mpr h
          simp [hTested, hNone, ih]
      | some q =>
          rw [hTested, Option.some.injEq] at hTests
          by_cases hSame : q = p
          · have hHere := hTests.mp hSame
            simp [hTested, hSame, hHere, ih]
          · have hOther : ¬ r.Tests names p.1 p.2 :=
              fun h => hSame (hTests.mpr h)
            have hApart : fieldPath q ≠ fieldPath p := by
              intro hPaths
              have hUndotted : '.' ∉ q.1.toList :=
                (tested?_eq_some_iff.mp hTested).undotted
              exact hSame
                (fieldPath_inj hUndotted hPath hPaths)
            simp [hTested, hApart, hOther, ih]

/-
  The rules that are counted under a path are those that
  test the field.
-/
theorem map_filter_counted
    (names : List String)
    (rules : List Rule)
    (hPath : '.' ∉ p.1.toList) :
    (((countedConditions names rules).filter
        fun q => q.1 == fieldPath p).map
          fun q => rules[q.2.ruleIndex]?) =
      (testers names rules p).map some := by
  have hAll :=
    map_counted_constraintsFrom names (standFrom_zero rules)
  have hGroup := congrArg
    (fun m => (m.filter fun q => q.1 == fieldPath p).map
      Prod.snd) hAll
  rw [map_snd_filter_tested hPath, List.filter_map,
    List.map_map] at hGroup
  exact hGroup

end Blueprint

------------------------------------------------------------
-- Notes on Overloaded Fields
------------------------------------------------------------

namespace Blueprint

variable {names : List String}
variable {rules : List Rule}
variable {p : String × String}

/-
  The note on a field: it stands at the first of the rules
  that test the field, and tells their number.
-/
def NotesOverload
    (names : List String)
    (rules : List Rule)
    (p : String × String)
    (i : Issue) : Prop :=
  ∃ r more, testers names rules p = r :: more ∧
    i = .of (.info (.constraintFieldOverloaded (fieldPath p)
      (testers names rules p).length)) r.location

/-
  What issues say about overloaded fields: there is one note
  for every field that more than five rules test, in the
  order of the paths. A path leads to one field only, since
  no entity of a constraint has a dot in its name.
-/
structure ReportsOverloads
    (spec : Spec)
    (issues : List Issue) : Prop where
  notes :
    ∃ fields : List (String × String),
      (∀ p, p ∈ fields ↔
        5 < (testers spec.entityNames spec.rules p).length) ∧
      fields.Pairwise
        (fun p q => fieldPath p < fieldPath q) ∧
      List.Forall₂ (NotesOverload spec.entityNames spec.rules)
        fields
        (withCodes [.constraintFieldOverloaded] issues)
  undotted :
    ∀ c ∈ constraints spec spec.entityNames,
      ∀ n, c.entity = some n → '.' ∉ n.toList
  apart :
    ∀ r s n f m g,
      Rule.Tests spec.entityNames r n f →
        Rule.Tests spec.entityNames s m g →
          fieldPath (n, f) = fieldPath (m, g) →
            n = m ∧ f = g

/- A field is noted when it is tested too often. -/
theorem overloadIssue?_fieldPath
    (hPath : '.' ∉ p.1.toList) :
    overloadIssue? rules (countedConditions names rules)
        (fieldPath p) =
      if 5 < (testers names rules p).length then
        (testers names rules p).head?.map fun r =>
          .of (.info (.constraintFieldOverloaded (fieldPath p)
            (testers names rules p).length)) r.location
      else
        none := by
  have hGroup := map_filter_counted names rules hPath
  have hLength := congrArg List.length hGroup
  have hHead := congrArg List.head? hGroup
  rw [List.length_map, List.length_map] at hLength
  rw [List.head?_map, List.head?_map] at hHead
  unfold overloadIssue? overloadThreshold
  dsimp only
  rw [hLength]
  split
  · cases hFirst : (testers names rules p).head? with
    | none =>
        rw [hFirst, Option.map_none, Option.map_eq_none_iff]
          at hHead
        rw [hHead]
        rfl
    | some r =>
        rw [hFirst, Option.map_some,
          Option.map_eq_some_iff] at hHead
        rcases hHead with ⟨q, hQ, hRule⟩
        rw [hQ, Option.bind_some, hRule, Option.map_some]
  · rfl

/- What is noted is a field that is tested too often. -/
theorem overloadIssue?_eq_some_iff
    (hPath : '.' ∉ p.1.toList)
    {i : Issue} :
    overloadIssue? rules (countedConditions names rules)
        (fieldPath p) = some i ↔
      5 < (testers names rules p).length ∧
        NotesOverload names rules p i := by
  rw [overloadIssue?_fieldPath hPath,
    Option.ite_none_right_eq_some, Option.map_eq_some_iff]
  simp only [List.head?_eq_some_iff]
  apply and_congr_right
  intro _
  constructor
  · rintro ⟨r, ⟨more, hTesters⟩, rfl⟩
    exact ⟨r, more, hTesters, rfl⟩
  · rintro ⟨r, more, hTesters, rfl⟩
    exact ⟨r, ⟨more, hTesters⟩, rfl⟩

theorem isSome_overloadIssue?_iff
    (hPath : '.' ∉ p.1.toList) :
    (overloadIssue? rules (countedConditions names rules)
        (fieldPath p)).isSome = true ↔
      5 < (testers names rules p).length := by
  rw [Option.isSome_iff_exists]
  simp only [overloadIssue?_eq_some_iff hPath]
  constructor
  · rintro ⟨_, hMany, _⟩
    exact hMany
  · intro hMany
    cases hTesters : testers names rules p with
    | nil =>
        rw [hTesters] at hMany
        cases hMany
    | cons r more =>
        rw [hTesters] at hMany
        exact ⟨_, hMany, r, more, hTesters, rfl⟩

/-
  What is found item by item is found, one by one, for the
  items that have it.
-/
theorem forall₂_filter_filterMap
    {α β : Type}
    {g : α → Option β}
    {has : α → Bool}
    (items : List α)
    (hHas : ∀ a ∈ items, has a = (g a).isSome) :
    List.Forall₂ (fun a b => g a = some b)
      (items.filter has) (items.filterMap g) := by
  induction items with
  | nil => exact .nil
  | cons a items ih =>
      rw [List.forall_mem_cons] at hHas
      cases hFound : g a with
      | none =>
          rw [List.filter_cons_of_neg (by simp [hHas.1, hFound]),
            List.filterMap_cons_none hFound]
          exact ih hHas.2
      | some b =>
          rw [List.filter_cons_of_pos (by simp [hHas.1, hFound]),
            List.filterMap_cons_some hFound]
          exact .cons hFound (ih hHas.2)

/- The issues of overloaded fields, field by field. -/
theorem overloadIssues_constraintsFrom
    (names : List String)
    (rules : List Rule) :
    overloadIssues rules (constraintsFrom names 0 rules) =
      (testedFields names rules).filterMap fun p =>
        overloadIssue? rules (countedConditions names rules)
          (fieldPath p) := by
  have hPaths := map_fieldPath_testedFields names rules
  unfold overloadIssues
  dsimp only
  rw [← countedConditions, ← sortedTargets, ← hPaths,
    List.filterMap_map]
  rfl

/- Among the conflicts, these are the notes on fields. -/
theorem withCodes_overloaded_conflictIssues (spec : Spec) :
    withCodes [.constraintFieldOverloaded]
        (conflictIssues spec (TypeEnv.ofSpec spec)) =
      overloadIssues spec.rules
        (constraintsFrom spec.entityNames 0 spec.rules) := by
  have hNames := constraints_congr
    (mem_entityNames_ofSpec_iff spec) spec
  unfold conflictIssues
  dsimp only
  rw [hNames, withCodes_append,
    (reports_pairIssues _ _).withCodes_eq_nil (by decide),
    (reports_overloadIssues _ _).withCodes_eq_self
      (List.Subset.refl _),
    List.nil_append]
  rfl

end Blueprint
