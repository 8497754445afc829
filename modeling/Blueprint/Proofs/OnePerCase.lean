import Mathlib.Data.List.Nodup
import Mathlib.Data.List.Perm.Basic

/-
  Results in bijection with cases: every case is told of by
  one of the results, and no result tells of anything else.

  Main definition:
    * `OnePerCase`

  Main statements:
    * `onePerCase_of_nodup_map`
    * `OnePerCase.append`, `OnePerCase.relabel`
    * `OnePerCase.append_relabel`
    * `OnePerCase.map`, `OnePerCase.perm`
    * `onePerCase_flatMap`
    * `onePerCase_filterMap`
-/

------------------------------------------------------------
-- Results and Cases
------------------------------------------------------------

namespace Blueprint

variable {ι κ α β : Type}

/-
  The results can be matched with the cases, one result for
  each case, so that every result tells of its case.
-/
def OnePerCase
    (isCase : ι → Prop)
    (tells : ι → β → Prop)
    (results : List β) : Prop :=
  ∃ cases : List ι,
    cases.Nodup ∧ (∀ c, c ∈ cases ↔ isCase c) ∧
      List.Forall₂ tells cases results

variable {isCase isOther : ι → Prop}
variable {tells : ι → β → Prop}
variable {first second results others : List β}

/- Without a case there is no result. -/
theorem onePerCase_nil
    (hNone : ∀ c, ¬ isCase c) :
    OnePerCase isCase tells [] :=
  ⟨[], List.nodup_nil, by simpa using hNone, .nil⟩

/- A single case has a single result. -/
theorem onePerCase_singleton
    {c : ι}
    {b : β}
    (hTells : tells c b) :
    OnePerCase (· = c) tells [b] :=
  ⟨[c], List.nodup_singleton c, by simp, .cons hTells .nil⟩

/- Results can be told apart by the cases that they name. -/
theorem onePerCase_of_nodup_map
    {label : β → ι}
    (hNodup : (results.map label).Nodup)
    (hCase : ∀ c, isCase c ↔ ∃ b ∈ results, label b = c)
    (hTells : ∀ b ∈ results, tells (label b) b) :
    OnePerCase isCase tells results := by
  refine ⟨results.map label, hNodup, ?_, ?_⟩
  · intro c
    rw [List.mem_map, hCase]
  · rw [List.forall₂_map_left_iff, List.forall₂_same]
    exact hTells

namespace OnePerCase

/- The same cases may be told otherwise, and less be told. -/
theorem mono
    {tellsLess : ι → β → Prop}
    (h : OnePerCase isCase tells results)
    (hCase : ∀ c, isCase c ↔ isOther c)
    (hTells : ∀ c b, tells c b → tellsLess c b) :
    OnePerCase isOther tellsLess results := by
  rcases h with ⟨cases, hNodup, hCases, hResults⟩
  refine ⟨cases, hNodup, ?_, hResults.imp hTells⟩
  intro c
  rw [hCases, hCase]

/- Results of different cases can be put together. -/
theorem append
    (hFirst : OnePerCase isCase tells first)
    (hSecond : OnePerCase isOther tells second)
    (hApart : ∀ c, isCase c → ¬ isOther c) :
    OnePerCase (fun c => isCase c ∨ isOther c) tells
      (first ++ second) := by
  rcases hFirst with ⟨cases, hNodup, hCases, hResults⟩
  rcases hSecond with ⟨more, hNodupMore, hMore, hResultsMore⟩
  refine ⟨cases ++ more, ?_, ?_,
    List.rel_append hResults hResultsMore⟩
  · apply hNodup.append hNodupMore
    intro c hMem hOther
    exact hApart c ((hCases c).mp hMem) ((hMore c).mp hOther)
  · intro c
    rw [List.mem_append, hCases, hMore]

/- Cases may be called by other names. -/
theorem relabel
    {label : ι → κ}
    {tells : κ → β → Prop}
    (hLabel : Function.Injective label)
    (h : OnePerCase isCase (fun c => tells (label c)) results) :
    OnePerCase (fun k => ∃ c, isCase c ∧ label c = k) tells
      results := by
  rcases h with ⟨cases, hNodup, hCases, hResults⟩
  refine ⟨cases.map label, hNodup.map hLabel, ?_, ?_⟩
  · intro k
    simp only [List.mem_map, hCases]
  · rw [List.forall₂_map_left_iff]
    exact hResults

/- Results of two kinds of cases, called by other names. -/
theorem append_relabel
    {μ : Type}
    {here : ι → μ}
    {later : κ → μ}
    {isLater : κ → Prop}
    {tells : μ → β → Prop}
    (hHere : Function.Injective here)
    (hLater : Function.Injective later)
    (hApart : ∀ c d, here c ≠ later d)
    (hFirst : OnePerCase isCase (fun c => tells (here c)) first)
    (hSecond :
      OnePerCase isLater (fun d => tells (later d)) second) :
    OnePerCase
      (fun k => (∃ c, isCase c ∧ here c = k) ∨
        ∃ d, isLater d ∧ later d = k)
      tells (first ++ second) := by
  apply (hFirst.relabel hHere).append (hSecond.relabel hLater)
  rintro _ ⟨c, _, rfl⟩ ⟨d, _, hSame⟩
  exact hApart c d hSame.symm

/- What is made of the results tells of the same cases. -/
theorem map
    (h : OnePerCase isCase tells results)
    (report : β → α) :
    OnePerCase isCase (fun c a => ∃ b, tells c b ∧ a = report b)
      (results.map report) := by
  rcases h with ⟨cases, hNodup, hCases, hResults⟩
  refine ⟨cases, hNodup, hCases, ?_⟩
  rw [List.forall₂_map_right_iff]
  exact hResults.imp fun _ b hTells => ⟨b, hTells, rfl⟩

/- The order of the results does not matter. -/
theorem perm
    (h : OnePerCase isCase tells results)
    (hPerm : others.Perm results) :
    OnePerCase isCase tells others := by
  rcases h with ⟨cases, hNodup, hCases, hResults⟩
  rcases List.perm_comp_forall₂ hPerm hResults.flip with
    ⟨ordered, hOrdered, hSame⟩
  refine ⟨ordered, hSame.nodup_iff.mpr hNodup, ?_,
    hOrdered.flip⟩
  intro c
  rw [hSame.mem_iff, hCases]

end OnePerCase

end Blueprint

------------------------------------------------------------
-- Results Item by Item
------------------------------------------------------------

namespace Blueprint

variable {ι α β : Type}
variable {isCase : α → ι → Prop}
variable {tells : α → ι → β → Prop}

/-
  Where the results of every item are one for each case of
  the item, those of a list are one for each place and case
  of the item there. The cases of the first item stand at
  place zero, and the others move up by one.
-/
theorem onePerCase_flatMap
    {f : α → List β}
    (hItem : ∀ a, OnePerCase (isCase a) (tells a) (f a))
    (items : List α) :
    OnePerCase
      (fun c : Nat × ι =>
        ∃ a, items[c.1]? = some a ∧ isCase a c.2)
      (fun c b => ∃ a, items[c.1]? = some a ∧ tells a c.2 b)
      (items.flatMap f) := by
  induction items with
  | nil => exact onePerCase_nil (by simp)
  | cons a items ih =>
      let here : ι → Nat × ι := fun c => (0, c)
      let later : Nat × ι → Nat × ι := fun c => (c.1 + 1, c.2)
      have hHere : Function.Injective here := by
        intro c d hSame
        exact congrArg Prod.snd hSame
      have hLater : Function.Injective later := by
        rintro ⟨k, c⟩ ⟨l, d⟩ hSame
        simpa [later] using hSame
      let tellsAll : Nat × ι → β → Prop := fun c b =>
        ∃ x, (a :: items)[c.1]? = some x ∧ tells x c.2 b
      have hFirst : OnePerCase (isCase a)
          (fun c => tellsAll (here c)) (f a) :=
        (hItem a).mono (fun _ => Iff.rfl)
          fun _ _ hTells => ⟨a, rfl, hTells⟩
      have hAll := OnePerCase.append_relabel hHere hLater
        (by simp [here, later]) hFirst ih
      rw [List.flatMap_cons]
      refine hAll.mono ?cases fun _ _ hTells => hTells
      case cases =>
          rintro ⟨k, c⟩
          cases k with
          | zero => simp [here, later]
          | succ k => simp [here, later]

/-
  What is found item by item is one for each place where
  something is found.
-/
theorem onePerCase_filterMap
    (g : α → Option β)
    (items : List α) :
    OnePerCase
      (fun k : Nat =>
        ∃ a b, items[k]? = some a ∧ g a = some b)
      (fun k b => ∃ a, items[k]? = some a ∧ g a = some b)
      (items.filterMap g) := by
  have hItem : ∀ a, OnePerCase
      (fun _ : Unit => ∃ b, g a = some b)
      (fun _ b => g a = some b) (g a).toList := by
    intro a
    cases hFound : g a with
    | none => exact onePerCase_nil (by simp)
    | some b =>
        have hOne : OnePerCase (· = ())
            (fun _ found => some b = some found) [b] :=
          onePerCase_singleton rfl
        exact hOne.mono (by simp) fun _ _ hTells => hTells
  have hPlace : Function.Injective
      (Prod.fst : Nat × Unit → Nat) := by
    rintro ⟨k, ⟨⟩⟩ ⟨l, ⟨⟩⟩ rfl
    rfl
  rw [List.filterMap_eq_flatMap_toList]
  refine (OnePerCase.relabel hPlace
    (onePerCase_flatMap hItem items)).mono ?_
      (fun _ _ hTells => hTells)
  simp

end Blueprint
