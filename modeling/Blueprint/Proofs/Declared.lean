import Blueprint.Symbols
import Blueprint.TypeEnv
import Mathlib.Data.List.Nodup

/-
  The first declaration of a name is the one that every
  table holds, and a name is declared twice exactly when
  some declaration is paired with an earlier one.

  Main statements:
    * `forall_withFirst_eq_none_iff`
    * `lookup_map_firsts`, `mem_map_firsts_iff`
    * `nodup_map_firsts`
    * `sortNames_eq_of_perm`
    * `hasEntity_ofSpec_iff`, `hasField_ofSpec_iff`
    * `fieldsOf?_ofSpec`
-/

------------------------------------------------------------
-- Pairs with the First Occurrence
------------------------------------------------------------

namespace Blueprint

variable {α β : Type}

/-
  The induction carries the items seen so far: no item is
  paired when the names of the items differ from each other
  and from the names that were seen.
-/
theorem forall_withFirstAfter_eq_none_iff
    (name : α → String)
    (seen items : List α) :
    (∀ p ∈ withFirstAfter name seen items, p.2 = none) ↔
      (items.map name).Nodup ∧
        ∀ item ∈ items, ∀ first ∈ seen,
          name first ≠ name item := by
  induction items generalizing seen with
  | nil => simp [withFirstAfter]
  | cons item items ih =>
      unfold withFirstAfter
      cases hFind : seen.find?
          fun first => name first == name item with
      | some first =>
          have hMem := List.mem_of_find?_eq_some hFind
          have hName : name first = name item := by
            simpa using List.find?_some hFind
          constructor
          · intro hNone
            have hPair := hNone _ List.mem_cons_self
            cases hPair
          · rintro ⟨_, hSeen⟩
            exact absurd hName
              (hSeen item List.mem_cons_self first hMem)
      | none =>
          have hNew : ∀ first ∈ seen,
              name first ≠ name item := by
            simpa using List.find?_eq_none.mp hFind
          simp only [List.forall_mem_cons, true_and, ih,
            List.map_cons, List.nodup_cons]
          constructor
          · rintro ⟨hNodup, hItems⟩
            refine ⟨⟨?_, hNodup⟩, hNew, ?_⟩
            · intro hMem
              rcases List.mem_map.mp hMem with
                ⟨other, hOther, hSame⟩
              exact (hItems other hOther).1 hSame.symm
            · intro other hOther
              exact (hItems other hOther).2
          · rintro ⟨⟨hFirst, hNodup⟩, _, hItems⟩
            refine ⟨hNodup, ?_⟩
            intro other hOther
            refine ⟨?_, hItems other hOther⟩
            intro hSame
            exact hFirst
              (List.mem_map.mpr ⟨other, hOther, hSame.symm⟩)

/- No item has an earlier namesake when the names differ. -/
theorem forall_withFirst_eq_none_iff
    (name : α → String)
    (items : List α) :
    (∀ p ∈ withFirst name items, p.2 = none) ↔
      (items.map name).Nodup := by
  unfold withFirst
  rw [forall_withFirstAfter_eq_none_iff]
  simp

/- Paired or not, every item stands in exactly one pair. -/
theorem forall_withFirst_iff
    (name : α → String)
    (items : List α)
    (p : α → Prop) :
    (∀ pair ∈ withFirst name items, p pair.1) ↔
      ∀ item ∈ items, p item := by
  conv_rhs => rw [← map_fst_withFirst name items]
  simp

end Blueprint

------------------------------------------------------------
-- Tables of First Occurrences
------------------------------------------------------------

namespace Blueprint

variable {α β : Type}

/- The first items of the names that `seen` does not have. -/
def firstsAfter
    (name : α → String)
    (seen items : List α) : List α :=
  (withFirstAfter name seen items).filterMap
    fun (item, first) =>
      if first.isNone then some item else none

/- The first items are those after nothing was seen. -/
theorem firsts_eq_firstsAfter
    (name : α → String)
    (items : List α) :
    firsts name items = firstsAfter name [] items :=
  rfl

/- A first item is kept, and its name counts as seen. -/
theorem firstsAfter_cons_of_new
    {name : α → String}
    {seen items : List α}
    {item : α}
    (hNew : ∀ first ∈ seen, name first ≠ name item) :
    firstsAfter name seen (item :: items) =
      item :: firstsAfter name (item :: seen) items := by
  have hFind : (seen.find?
      fun first => name first == name item) = none := by
    simpa using hNew
  simp [firstsAfter, withFirstAfter, hFind]

/- An item with an earlier namesake is left out. -/
theorem firstsAfter_cons_of_seen
    {name : α → String}
    {seen items : List α}
    {item : α}
    (hSeen : ∃ first ∈ seen, name first = name item) :
    firstsAfter name seen (item :: items) =
      firstsAfter name seen items := by
  rcases hSeen with ⟨first, hMem, hName⟩
  cases hFind : seen.find?
      fun first => name first == name item with
  | none =>
      have hNone := List.find?_eq_none.mp hFind first hMem
      simp [hName] at hNone
  | some _ => simp [firstsAfter, withFirstAfter, hFind]

/-
  A table of first items has an entry for every name that
  was not seen, and it is the entry of the first item.
-/
theorem lookup_map_firstsAfter
    (name : α → String)
    (value : α → β)
    (seen items : List α)
    (n : String)
    (hSeen : ∀ first ∈ seen, name first ≠ n) :
    ((firstsAfter name seen items).map
        fun item => (name item, value item)).lookup n =
      (items.find? fun item => name item == n).map value := by
  induction items generalizing seen with
  | nil => simp [firstsAfter, withFirstAfter]
  | cons item items ih =>
      by_cases hName : name item = n
      · have hNew : ∀ first ∈ seen,
            name first ≠ name item := by
          rw [hName]
          exact hSeen
        rw [firstsAfter_cons_of_new hNew]
        simp [hName]
      · have hOther : (n == name item) = false := by
          simpa using Ne.symm hName
        have hFind : (List.find?
            (fun item => name item == n) (item :: items)) =
              items.find? fun item => name item == n :=
          List.find?_cons_of_neg (by simpa using hName)
        rw [hFind]
        by_cases hOld : ∃ first ∈ seen,
            name first = name item
        · rw [firstsAfter_cons_of_seen hOld, ih seen hSeen]
        · have hNew : ∀ first ∈ seen,
              name first ≠ name item := by
            intro first hMem hSame
            exact hOld ⟨first, hMem, hSame⟩
          rw [firstsAfter_cons_of_new hNew, List.map_cons,
            List.lookup_cons, hOther]
          apply ih
          intro first hMem
          rcases List.mem_cons.mp hMem with rfl | hMem
          · exact hName
          · exact hSeen first hMem

/- A table of first items holds the first item of a name. -/
theorem lookup_map_firsts
    (name : α → String)
    (value : α → β)
    (items : List α)
    (n : String) :
    ((firsts name items).map
        fun item => (name item, value item)).lookup n =
      (items.find? fun item => name item == n).map value := by
  rw [firsts_eq_firstsAfter]
  exact lookup_map_firstsAfter name value [] items n (by simp)

/- A list has an item of a name when it has a first one. -/
theorem isSome_find?_name_iff
    (name : α → String)
    (items : List α)
    (n : String) :
    (items.find? fun item => name item == n).isSome = true ↔
      ∃ item ∈ items, name item = n := by
  rw [List.find?_isSome]
  simp

/- The first items have the names of all items. -/
theorem mem_map_firsts_iff
    (name : α → String)
    (items : List α)
    (n : String) :
    n ∈ (firsts name items).map name ↔
      ∃ item ∈ items, name item = n := by
  have hLookup :=
    lookup_map_firsts name (fun _ => ()) items n
  rw [← isSome_find?_name_iff, ← Option.isSome_map,
    ← hLookup, Option.isSome_iff_ne_none, Ne,
    List.lookup_eq_none_iff]
  simp [@eq_comm _ n]

/-
  The first items have different names, and none of a name
  that was seen.
-/
theorem nodup_map_firstsAfter
    (name : α → String)
    (seen items : List α) :
    ((firstsAfter name seen items).map name).Nodup ∧
      ∀ first ∈ seen,
        name first ∉ (firstsAfter name seen items).map
          name := by
  induction items generalizing seen with
  | nil => simp [firstsAfter, withFirstAfter]
  | cons item items ih =>
      by_cases hOld : ∃ first ∈ seen,
          name first = name item
      · rw [firstsAfter_cons_of_seen hOld]
        exact ih seen
      · have hNew : ∀ first ∈ seen,
            name first ≠ name item := by
          intro first hMem hSame
          exact hOld ⟨first, hMem, hSame⟩
        rcases ih (item :: seen) with ⟨hNodup, hSeen⟩
        rw [firstsAfter_cons_of_new hNew, List.map_cons,
          List.nodup_cons]
        refine ⟨⟨hSeen item List.mem_cons_self, hNodup⟩, ?_⟩
        intro first hMem hName
        rcases List.mem_cons.mp hName with hSame | hLater
        · exact hNew first hMem hSame
        · exact hSeen first (List.mem_cons_of_mem _ hMem)
            hLater

/- The first items have different names. -/
theorem nodup_map_firsts
    (name : α → String)
    (items : List α) :
    ((firsts name items).map name).Nodup := by
  rw [firsts_eq_firstsAfter]
  exact (nodup_map_firstsAfter name [] items).1

end Blueprint

------------------------------------------------------------
-- Names in Order
------------------------------------------------------------

namespace Blueprint

/- Sorting neither adds nor loses a name. -/
theorem mem_sortNames_iff
    {names : List String}
    {n : String} :
    n ∈ sortNames names ↔ n ∈ names :=
  (sortNames_perm names).mem_iff

/- Sorted names stand in their order. -/
theorem sortNames_pairwise (names : List String) :
    (sortNames names).Pairwise (· ≤ ·) := by
  have hTrans : ∀ a b c : String, decide (a ≤ b) = true →
      decide (b ≤ c) = true → decide (a ≤ c) = true := by
    intro a b c hFirst hSecond
    rw [decide_eq_true_eq] at hFirst hSecond ⊢
    exact String.le_trans hFirst hSecond
  have hTotal : ∀ a b : String,
      (decide (a ≤ b) || decide (b ≤ a)) = true := by
    intro a b
    rw [Bool.or_eq_true, decide_eq_true_eq,
      decide_eq_true_eq]
    exact String.le_total a b
  have hSorted :=
    List.pairwise_mergeSort hTrans hTotal names
  apply hSorted.imp
  intro a b hOrder
  exact decide_eq_true_eq.mp hOrder

/- Names are sorted alike, however they are mixed up. -/
theorem sortNames_eq_of_perm
    {names others : List String}
    (h : names.Perm others) :
    sortNames names = sortNames others := by
  have hPerm : (sortNames names).Perm (sortNames others) :=
    (sortNames_perm names).trans
      (h.trans (sortNames_perm others).symm)
  apply List.Perm.eq_of_pairwise _
    (sortNames_pairwise names) (sortNames_pairwise others)
    hPerm
  intro a b _ _ hFirst hSecond
  exact String.le_antisymm hFirst hSecond

end Blueprint

------------------------------------------------------------
-- Symbol Tables and Type Environments
------------------------------------------------------------

namespace Blueprint

/- The table knows the entities that are declared. -/
theorem hasEntity_ofSpec_iff
    (spec : Spec)
    (n : String) :
    (SymbolTable.ofSpec spec).hasEntity n = true ↔
      ∃ e ∈ spec.entities, e.name = n := by
  unfold SymbolTable.hasEntity SymbolTable.ofSpec
    SymbolTable.places
  rw [lookup_map_firsts, Option.isSome_map,
    isSome_find?_name_iff]

/- The table knows the fields of first declarations. -/
theorem hasField_ofSpec_iff
    (spec : Spec)
    (n field : String) :
    (SymbolTable.ofSpec spec).hasField n field = true ↔
      ∃ e, spec.entity? n = some e ∧
        ∃ f ∈ e.fields, f.name = field := by
  unfold SymbolTable.hasField SymbolTable.ofSpec
  rw [lookup_map_firsts Entity.name SymbolTable.fieldNames]
  unfold Spec.entity?
  cases spec.entities.find? fun e => e.name == n with
  | none => simp
  | some e =>
      simp only [Option.map_some, List.contains_iff_mem,
        Option.some.injEq, exists_eq_left']
      unfold SymbolTable.fieldNames
      rw [mem_sortNames_iff, mem_map_firsts_iff]

/- The environment has the fields of first declarations. -/
theorem fieldsOf?_ofSpec
    (spec : Spec)
    (n : String) :
    (TypeEnv.ofSpec spec).fieldsOf? n =
      (spec.entity? n).map TypeEnv.tagsOf := by
  unfold TypeEnv.fieldsOf? TypeEnv.ofSpec
  rw [lookup_map_firsts Entity.name TypeEnv.tagsOf]
  rfl

end Blueprint
