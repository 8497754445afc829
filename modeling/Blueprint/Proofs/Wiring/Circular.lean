import Blueprint.Proofs.Issue.Selection
import Blueprint.Proofs.OnePerCase
import Blueprint.Proofs.Places.Checks
import Blueprint.Proofs.Reordering.Checks
import Blueprint.Proofs.Verdict.Warnings
import Blueprint.Verify
import Mathlib.Algebra.BigOperators.Group.Finset.Basic
import Mathlib.Algebra.GroupWithZero.Nat
import Mathlib.Data.Sym.Sym2

/-
  Entities that refer to each other are noted once for every
  two of them, at the first field that connects them, and
  the summary counts what the wiring checks look at.

  Main definitions:
    * `Spec.Links`, `Spec.Mutual`
    * `Spec.firstFields`
    * `Spec.TellsMutual`
    * `Spec.RequiredCount`
    * `ReportsWiring`

  Main statements:
    * `onePerCase_firstOfPairs`
    * `mutualReach?_eq_some_iff`
    * `reportsWiring_verify`
-/

------------------------------------------------------------
-- Entities that Refer to Each Other
------------------------------------------------------------

namespace Blueprint

namespace FieldType

/- A relationship and a list refer to an entity. -/
def RefersTo
    (t : FieldType)
    (n : String) : Prop :=
  t = .relationship n ∨ t = .list n

theorem target?_eq_some_iff
    {t : FieldType}
    {n : String} :
    t.target? = some n ↔ t.RefersTo n := by
  cases t <;> simp [target?, RefersTo]

end FieldType

/-
  The entity has the field, and with it connects two
  entities: itself, and the one that the field refers to.
-/
def Connects
    (pair : Sym2 String)
    (p : Entity × Field) : Prop :=
  ∃ n, p.2.type.RefersTo n ∧ pair = s(p.1.name, n)

namespace Spec

/- The first declaration of an entity refers to another. -/
def Links
    (spec : Spec)
    (source target : String) : Prop :=
  ∃ e, FirstNamed Entity.name spec.entities source e ∧
    ∃ f ∈ e.fields, f.type.RefersTo target

/- Two different entities refer to each other. -/
def Mutual
    (spec : Spec)
    (pair : Sym2 String) : Prop :=
  ∃ a b, pair = s(a, b) ∧ a ≠ b ∧
    spec.Links a b ∧ spec.Links b a

/- The fields of the first declarations, in their order. -/
def firstFields (spec : Spec) : List (Entity × Field) :=
  spec.uniqueEntities.flatMap fun e =>
    e.fields.map fun f => (e, f)

/-
  The issue is the note on two entities that refer to each
  other, at the first field that connects them.
-/
def TellsMutual
    (spec : Spec)
    (pair : Sym2 String)
    (i : Issue) : Prop :=
  ∃ before e f after n,
    spec.firstFields = before ++ (e, f) :: after ∧
      (∀ p ∈ before, ¬ Connects pair p) ∧
      f.type.RefersTo n ∧ pair = s(e.name, n) ∧
      i = .of (.info (.wiringCircularRelationship e.name n))
        f.location

/- Which of the two is named first does not matter. -/
theorem mutual_iff
    {spec : Spec}
    {a b : String} :
    spec.Mutual s(a, b) ↔
      a ≠ b ∧ spec.Links a b ∧ spec.Links b a := by
  constructor
  · rintro ⟨c, d, hPair, hOther, hForth, hBack⟩
    rcases Sym2.eq_iff.mp hPair with ⟨rfl, rfl⟩ | ⟨rfl, rfl⟩
    · exact ⟨hOther, hForth, hBack⟩
    · exact ⟨Ne.symm hOther, hBack, hForth⟩
  · rintro ⟨hOther, hForth, hBack⟩
    exact ⟨a, b, rfl, hOther, hForth, hBack⟩

end Spec

/- Among first declarations, references are links. -/
theorem refersTo_uniqueEntities_iff
    {spec : Spec}
    {source target : String} :
    refersTo spec.uniqueEntities source target = true ↔
      spec.Links source target := by
  unfold refersTo targets Spec.Links Spec.uniqueEntities
  simp only [← mem_firsts_iff, List.any_eq_true,
    Bool.and_eq_true, beq_iff_eq, List.contains_iff_mem,
    List.mem_filterMap, FieldType.target?_eq_some_iff,
    and_assoc]

end Blueprint

------------------------------------------------------------
-- First Field of Every Pair
------------------------------------------------------------

namespace Blueprint

/- Two names have one order. -/
theorem orderedPair_comm (a b : String) :
    orderedPair a b = orderedPair b a := by
  unfold orderedPair
  by_cases hLess : a < b
  · rw [if_pos hLess, if_neg (String.lt_asymm hLess)]
  · rw [if_neg hLess]
    by_cases hMore : b < a
    · rw [if_pos hMore]
    · have hSame : a = b := String.le_antisymm
        (String.not_lt.mp hMore) (String.not_lt.mp hLess)
      rw [if_neg hMore, hSame]

namespace Reach

/- The two entities that a field connects, in any order. -/
def link (r : Reach) : Sym2 String :=
  s(r.source, r.target)

/- The order of names makes one pair of two. -/
theorem pair_eq_iff
    {r other : Reach} :
    r.pair = other.pair ↔ r.link = other.link := by
  have hLink : ∀ x : Reach,
      s(x.pair.1, x.pair.2) = x.link := by
    intro x
    unfold pair link orderedPair
    split
    · rfl
    · exact Sym2.eq_swap
  constructor
  · intro hPair
    rw [← hLink, ← hLink, hPair]
  · unfold pair link
    rw [Sym2.eq_iff]
    rintro (⟨hSource, hTarget⟩ | ⟨hSource, hTarget⟩)
    · rw [hSource, hTarget]
    · rw [hSource, hTarget, orderedPair_comm]

/-
  A field that is kept is the first one for its pair. The
  induction carries the pairs seen so far, to which the pair
  of a kept field does not belong.
-/
theorem find?_of_mem_firstOfPairs
    {seen : List (String × String)}
    {rs : List Reach}
    {r : Reach}
    (h : r ∈ firstOfPairs seen rs) :
    rs.find? (fun other => other.pair == r.pair) = some r := by
  induction rs generalizing seen with
  | nil => cases h
  | cons x rs ih =>
      unfold firstOfPairs at h
      have hOther : ∀ {pairs}, x.pair ∈ pairs →
          r ∈ firstOfPairs pairs rs → ¬ x.pair = r.pair := by
        intro pairs hSeen hMem hSame
        have hNew := (mem_map_pair_firstOfPairs_iff _ _ _).mp
          (List.mem_map_of_mem hMem)
        rw [hSame] at hSeen
        exact hNew.2 hSeen
      split at h
      · rename_i hSeen
        rw [List.find?_cons_of_neg
          (by simpa using hOther (by simpa using hSeen) h),
          ih h]
      · rcases List.mem_cons.mp h with rfl | h
        · exact List.find?_cons_of_pos (by simp)
        · rw [List.find?_cons_of_neg
            (by simpa using hOther List.mem_cons_self h),
            ih h]

/- The kept fields are one for each two connected entities. -/
theorem onePerCase_firstOfPairs (rs : List Reach) :
    OnePerCase (fun pair => ∃ r ∈ rs, r.link = pair)
      (fun pair r => r.link = pair ∧
        rs.find? (fun other => other.pair == r.pair) = some r)
      (firstOfPairs [] rs) := by
  apply onePerCase_of_nodup_map
  case label => exact link
  case hNodup =>
      have hPairs := nodup_map_pair_firstOfPairs [] rs
      unfold List.Nodup at hPairs ⊢
      rw [List.pairwise_map] at hPairs ⊢
      exact hPairs.imp fun hApart hSame =>
        hApart (pair_eq_iff.mpr hSame)
  case hCase =>
      intro pair
      constructor
      · rintro ⟨r, hMem, rfl⟩
        have hPair :=
          (mem_map_pair_firstOfPairs_iff [] rs r.pair).mpr
            ⟨List.mem_map_of_mem hMem, List.not_mem_nil⟩
        rcases List.mem_map.mp hPair with
          ⟨first, hFirst, hSame⟩
        exact ⟨first, hFirst, pair_eq_iff.mp hSame⟩
      · rintro ⟨r, hMem, rfl⟩
        exact ⟨r, firstOfPairs_subset [] rs hMem, rfl⟩
  case hTells =>
      intro r hMem
      exact ⟨rfl, find?_of_mem_firstOfPairs hMem⟩

end Reach

end Blueprint

------------------------------------------------------------
-- Fields that Refer Back and Forth
------------------------------------------------------------

namespace Blueprint

/- The field refers to another entity, which refers back. -/
def mutualReach?
    (spec : Spec)
    (p : Entity × Field) : Option Reach :=
  match p.2.type.target? with
  | none => none
  | some n =>
      if n ≠ p.1.name ∧
          refersTo spec.uniqueEntities n p.1.name = true then
        some ⟨p.1.name, n, p.2.location⟩
      else
        none

variable {spec : Spec}

theorem mem_firstFields_iff
    {e : Entity}
    {f : Field} :
    (e, f) ∈ spec.firstFields ↔
      FirstNamed Entity.name spec.entities e.name e ∧
        f ∈ e.fields := by
  unfold Spec.firstFields Spec.uniqueEntities
  rw [← mem_firsts_iff]
  simp

/-
  The fields of first declarations that are followed up are
  those that connect two entities referring to each other.
-/
theorem mutualReach?_eq_some_iff
    {e : Entity}
    {f : Field}
    {r : Reach}
    (hMem : (e, f) ∈ spec.firstFields) :
    mutualReach? spec (e, f) = some r ↔
      ∃ n, f.type.RefersTo n ∧ spec.Mutual s(e.name, n) ∧
        r = ⟨e.name, n, f.location⟩ := by
  rcases mem_firstFields_iff.mp hMem with ⟨hFirst, hField⟩
  have hMutual : ∀ {n}, f.type.RefersTo n →
      (spec.Mutual s(e.name, n) ↔ n ≠ e.name ∧
        refersTo spec.uniqueEntities n e.name = true) := by
    intro n hRefers
    have hForth : spec.Links e.name n :=
      ⟨e, hFirst, f, hField, hRefers⟩
    rw [Spec.mutual_iff, refersTo_uniqueEntities_iff,
      and_iff_right hForth, ne_comm]
  unfold mutualReach?
  dsimp only
  split
  · rename_i hNone
    constructor
    · rintro ⟨⟩
    · rintro ⟨n, hRefers, _⟩
      rw [← FieldType.target?_eq_some_iff, hNone] at hRefers
      cases hRefers
  · rename_i n hTarget
    have hRefers := FieldType.target?_eq_some_iff.mp hTarget
    rw [Option.ite_none_right_eq_some, ← hMutual hRefers,
      Option.some.injEq]
    constructor
    · rintro ⟨hPair, rfl⟩
      exact ⟨n, hRefers, hPair, rfl⟩
    · rintro ⟨m, hOther, hPair, rfl⟩
      rw [← FieldType.target?_eq_some_iff, hTarget,
        Option.some.injEq] at hOther
      rw [hOther]
      exact ⟨hPair, rfl⟩

/- The followed fields come from the first declarations. -/
theorem filter_ofEntity_eq_filterMap (spec : Spec) :
    (spec.uniqueEntities.flatMap Reach.ofEntity).filter
        (fun r =>
          refersTo spec.uniqueEntities r.target r.source) =
      spec.firstFields.filterMap (mutualReach? spec) := by
  unfold Spec.firstFields
  rw [List.filter_flatMap, List.filterMap_flatMap]
  apply List.flatMap_congr
  intro e _
  unfold Reach.ofEntity
  rw [List.filter_filterMap, List.filterMap_map]
  apply List.filterMap_congr
  intro f _
  unfold mutualReach?
  cases hTarget : f.type.target? with
  | none => simp [hTarget]
  | some n =>
      by_cases hSelf : n = e.name
      · simp [hTarget, hSelf]
      · simp [hTarget, hSelf, Option.filter_some]

/- The followed fields connect what is mutually linked. -/
theorem exists_followed_iff
    {pair : Sym2 String} :
    (∃ r ∈ spec.firstFields.filterMap (mutualReach? spec),
        r.link = pair) ↔
      spec.Mutual pair := by
  simp only [List.mem_filterMap]
  constructor
  · rintro ⟨r, ⟨⟨e, f⟩, hMem, hSome⟩, rfl⟩
    rcases (mutualReach?_eq_some_iff hMem).mp hSome with
      ⟨n, _, hMutual, rfl⟩
    exact hMutual
  · rintro ⟨a, b, rfl, hOther, hForth, hBack⟩
    have hMutual : spec.Mutual s(a, b) :=
      Spec.mutual_iff.mpr ⟨hOther, hForth, hBack⟩
    rcases hForth with ⟨e, hFirst, f, hField, hRefers⟩
    have hName : e.name = a := hFirst.1
    subst hName
    have hMem := mem_firstFields_iff.mpr ⟨hFirst, hField⟩
    exact ⟨⟨e.name, b, f.location⟩,
      ⟨(e, f), hMem, (mutualReach?_eq_some_iff hMem).mpr
        ⟨b, hRefers, hMutual, rfl⟩⟩, rfl⟩

/- The first followed field is the first that connects. -/
theorem tellsMutual_of_find?
    {r : Reach}
    (hFirst :
      (spec.firstFields.filterMap (mutualReach? spec)).find?
        (fun other => other.pair == r.pair) = some r) :
    spec.TellsMutual r.link
      (.of
        (.info (.wiringCircularRelationship r.source r.target))
        r.location) := by
  rw [List.find?_filterMap, Option.bind_eq_some_iff] at hFirst
  rcases hFirst with ⟨⟨e, f⟩, hFind, hReach⟩
  rw [List.find?_eq_some_iff_append] at hFind
  rcases hFind with ⟨_, before, after, hFields, hBefore⟩
  have hMem : ∀ p ∈ before, p ∈ spec.firstFields := by
    intro p hMem
    rw [hFields]
    exact List.mem_append_left _ hMem
  have hOwn : (e, f) ∈ spec.firstFields := by
    rw [hFields]
    exact List.mem_append_right _ List.mem_cons_self
  rcases (mutualReach?_eq_some_iff hOwn).mp hReach with
    ⟨n, hRefers, hMutual, rfl⟩
  refine ⟨before, e, f, after, n, hFields, ?_, hRefers, rfl,
    rfl⟩
  rintro ⟨d, g⟩ hEarlier ⟨m, hOther, hPair⟩
  have hFollowed : mutualReach? spec (d, g) =
      some ⟨d.name, m, g.location⟩ := by
    rw [mutualReach?_eq_some_iff (hMem _ hEarlier)]
    exact ⟨m, hOther, hPair ▸ hMutual, rfl⟩
  have hNone := hBefore _ hEarlier
  rw [hFollowed] at hNone
  have hSame : Reach.link ⟨d.name, m, g.location⟩ =
      Reach.link ⟨e.name, n, f.location⟩ :=
    hPair.symm
  simp [Reach.pair_eq_iff.mpr hSame] at hNone

/- The notes are one for each two entities. -/
theorem onePerCase_circularIssues (spec : Spec) :
    OnePerCase spec.Mutual spec.TellsMutual
      (circularIssues spec) := by
  unfold circularIssues
  dsimp only
  rw [filter_ofEntity_eq_filterMap]
  apply ((Reach.onePerCase_firstOfPairs _).map _).mono
  case hCase => exact fun pair => exists_followed_iff
  case hTells =>
      rintro _ _ ⟨r, ⟨rfl, hFirst⟩, rfl⟩
      exact tellsMutual_of_find? hFirst

end Blueprint

------------------------------------------------------------
-- Counts
------------------------------------------------------------

namespace Blueprint

/- A relationship or a list. -/
def FieldType.isReference : FieldType → Bool
| .relationship _ | .list _ => true
| _ => false

namespace Spec

variable {spec : Spec}

/- The different names of the declared entities. -/
def entityNameSet (spec : Spec) : Finset String :=
  (spec.entities.map Entity.name).toFinset

/- The fields of the first declaration of an entity. -/
def fieldsOf
    (spec : Spec)
    (n : String) : List Field :=
  ((spec.entity? n).map Entity.fields).getD []

/-
  The number of required fields that a screen should list.
  A form that lists fields and is bound to a declared entity
  should list all of its required ones.
-/
inductive RequiredCount
    (spec : Spec)
    (s : Screen) : Nat → Prop
| form
    {n : String}
    {e : Entity}
    (kind : s.kind = .form)
    (listed : s.fields ≠ [])
    (bound : s.entity = some n)
    (declared : FirstNamed Entity.name spec.entities n e) :
    RequiredCount spec s
      (e.fields.countP fun f => f.modifiers.required)
| other
    (unbound : ∀ n e, s.kind = .form → s.fields ≠ [] →
      s.entity = some n →
        ¬ FirstNamed Entity.name spec.entities n e) :
    RequiredCount spec s 0

/- No two first declarations have one name. -/
theorem nodup_uniqueEntities (spec : Spec) :
    (spec.uniqueEntities.map Entity.name).Nodup :=
  nodup_map_firsts Entity.name spec.entities

/- The first declarations are one for each name. -/
theorem toFinset_uniqueEntities (spec : Spec) :
    (spec.uniqueEntities.map Entity.name).toFinset =
      spec.entityNameSet := by
  ext n
  unfold entityNameSet uniqueEntities
  rw [List.mem_toFinset, List.mem_toFinset,
    mem_map_firsts_iff, List.mem_map]

/- A sum over first declarations is a sum over names. -/
theorem sum_entityNameSet
    (spec : Spec)
    (count : String → Nat) :
    ∑ n ∈ spec.entityNameSet, count n =
      (spec.uniqueEntities.map fun e => count e.name).sum := by
  rw [← toFinset_uniqueEntities,
    List.sum_toFinset _ spec.nodup_uniqueEntities,
    List.map_map]
  rfl

/- As many first declarations as names are looked at. -/
theorem length_uniqueEntities (spec : Spec) :
    spec.uniqueEntities.length =
      spec.entityNameSet.card := by
  rw [← toFinset_uniqueEntities,
    List.toFinset_card_of_nodup spec.nodup_uniqueEntities,
    List.length_map]

/- The references of first declarations are all counted. -/
theorem relationshipsChecked_eq (spec : Spec) :
    (wiringCounts spec).relationshipsChecked =
      ∑ n ∈ spec.entityNameSet,
        (spec.fieldsOf n).countP (·.type.isReference) := by
  have hTargets : ∀ e ∈ spec.uniqueEntities,
      (targets e).length =
        (spec.fieldsOf e.name).countP
          (·.type.isReference) := by
    intro e hMem
    have hFirst := mem_firsts_iff.mp ⟨hMem, rfl⟩
    have hFields : spec.fieldsOf e.name = e.fields := by
      unfold fieldsOf
      rw [entity?_eq_some_iff.mpr hFirst]
      rfl
    unfold targets
    rw [hFields, List.length_filterMap_eq_countP]
    congr 1
    funext f
    cases f.type <;> rfl
  rw [sum_entityNameSet]
  unfold wiringCounts
  dsimp only
  rw [List.length_flatMap, List.map_congr_left hTargets]

/- A screen should list the fields that its form expects. -/
theorem requiredCount_expectedFields
    (spec : Spec)
    (s : Screen) :
    spec.RequiredCount s (expectedFields spec s).length := by
  unfold expectedFields
  cases hForm : formEntity? spec s with
  | none =>
      apply RequiredCount.other
      intro n e hKind hListed hBound hDeclared
      have hSome := formEntity?_eq_some_iff.mpr
        ⟨⟨hKind, hListed⟩, n, hBound, hDeclared⟩
      rw [hForm] at hSome
      cases hSome
  | some e =>
      rcases formEntity?_eq_some_iff.mp hForm with
        ⟨⟨hKind, hListed⟩, n, hBound, hDeclared⟩
      unfold requiredFields
      rw [List.length_map, ← List.countP_eq_length_filter]
      exact .form hKind hListed hBound hDeclared

/- What is checked are the names and the required fields. -/
theorem exists_wiringChecks_eq (spec : Spec) :
    ∃ counts,
      List.Forall₂ spec.RequiredCount spec.screens counts ∧
        (wiringCounts spec).wiringChecks =
          spec.entityNameSet.card + counts.sum := by
  refine ⟨spec.screens.map fun s =>
    (expectedFields spec s).length, ?_, ?_⟩
  · rw [List.forall₂_map_right_iff, List.forall₂_same]
    exact fun s _ => requiredCount_expectedFields spec s
  · unfold wiringCounts requiredCount
    dsimp only
    rw [length_uniqueEntities, List.length_flatMap]

end Spec

end Blueprint

------------------------------------------------------------
-- Verdict on the Wiring
------------------------------------------------------------

namespace Blueprint

/-
  What a report says about entities that refer to each other
  and about how much of the wiring was looked at.
-/
structure ReportsWiring
    (spec : Spec)
    (report : Report) : Prop where
  circular :
    OnePerCase spec.Mutual spec.TellsMutual
      (withCodes [.wiringCircularRelationship] report.issues)
  relationships :
    report.summary.relationshipsChecked =
      ∑ n ∈ spec.entityNameSet,
        (spec.fieldsOf n).countP (·.type.isReference)
  checks :
    ∃ counts,
      List.Forall₂ spec.RequiredCount spec.screens counts ∧
        report.summary.wiringChecks =
          spec.entityNameSet.card + counts.sum

/- The notes on mutual references among the wiring issues. -/
theorem withCodes_wiringIssues (spec : Spec) :
    withCodes [.wiringCircularRelationship]
        (wiringIssues spec) = circularIssues spec := by
  have hRequired : Reports [.wiringFormMissingRequired]
      (spec.screens.flatMap (requiredIssues spec)) := by
    rw [reports_flatMap_iff]
    exact fun s _ => reports_requiredIssues spec s
  unfold wiringIssues
  rw [withCodes_append, withCodes_append,
    (reports_unreferencedIssues spec).withCodes_eq_nil
      (by decide),
    hRequired.withCodes_eq_nil (by decide),
    (reports_circularIssues spec).withCodes_eq_self
      (by decide)]
  rfl

end Blueprint
