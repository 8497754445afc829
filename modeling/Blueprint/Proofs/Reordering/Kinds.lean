import Blueprint.Proofs.Declared
import Blueprint.Proofs.Issue.Codes
import Blueprint.Report
import Mathlib.Data.List.Perm.Basic

/-
  Lists with as many issues of every kind: what the kinds
  are counted by, and how they are kept when declarations
  change places. A name is repeated as often in any order,
  though by another declaration.

  Main definitions:
    * `Issue.kind`, `SameKinds`
    * `repeats`

  Main statements:
    * `SameKinds.countSeverity_eq`, `SameKinds.countCode_eq`
    * `repeats_eq_of_perm`
    * `sameKinds_flatMap_withFirst`
-/

------------------------------------------------------------
-- Kinds of Issues
------------------------------------------------------------

namespace Blueprint

/- The severity and the code of an issue. -/
def Issue.kind (i : Issue) : Severity × String :=
  (i.severity, i.code)

/- Two lists have as many issues of every kind. -/
def SameKinds (first second : List Issue) : Prop :=
  (first.map Issue.kind).Perm (second.map Issue.kind)

variable {α : Type}
variable {first second : List Issue}

namespace SameKinds

/- Lists are joined with the kinds of both. -/
theorem append
    {more others : List Issue}
    (hFirst : SameKinds first second)
    (hMore : SameKinds more others) :
    SameKinds (first ++ more) (second ++ others) := by
  unfold SameKinds
  rw [List.map_append, List.map_append]
  exact List.Perm.append hFirst hMore

/- As many issues of a severity are counted. -/
theorem countSeverity_eq
    (h : SameKinds first second)
    (severity : Severity) :
    countSeverity severity first =
      countSeverity severity second := by
  have hCount := List.Perm.countP_eq
    (fun kind : Severity × String => kind.1 == severity) h
  rw [List.countP_map, List.countP_map] at hCount
  exact hCount

/- As many issues with a code are counted. -/
theorem countCode_eq
    (h : SameKinds first second)
    (code : String) :
    (first.countP fun i => i.code == code) =
      second.countP fun i => i.code == code := by
  have hCount := List.Perm.countP_eq
    (fun kind : Severity × String => kind.2 == code) h
  rw [List.countP_map, List.countP_map] at hCount
  exact hCount

end SameKinds

/- The order of issues does not matter. -/
theorem sameKinds_of_perm
    (h : first.Perm second) :
    SameKinds first second :=
  h.map Issue.kind

/- Issues of each item have the same kinds in any order. -/
theorem sameKinds_flatMap
    {xs ys : List α}
    (h : xs.Perm ys)
    (f : α → List Issue) :
    SameKinds (xs.flatMap f) (ys.flatMap f) :=
  sameKinds_of_perm (h.flatMap_right f)

/- Issues of one code are as many as they are. -/
theorem sameKinds_of_reports
    {code : Code}
    (hFirst : Reports [code] first)
    (hSecond : Reports [code] second)
    (hLength : first.length = second.length) :
    SameKinds first second := by
  have hKinds : ∀ issues : List Issue, Reports [code] issues →
      issues.map Issue.kind =
        List.replicate issues.length
          (code.severity, code.id) := by
    intro issues hReports
    rw [List.eq_replicate_iff, List.length_map]
    refine ⟨rfl, ?_⟩
    rw [List.forall_mem_map]
    intro i hMem
    rcases hReports i hMem with ⟨c, hCode, hId, hSeverity⟩
    rw [List.mem_singleton] at hCode
    rw [Issue.kind, hId, hSeverity, hCode]
  unfold SameKinds
  rw [hKinds first hFirst, hKinds second hSecond, hLength]

end Blueprint

------------------------------------------------------------
-- Repeated Names
------------------------------------------------------------

namespace Blueprint

variable {α : Type}
variable (name : α → String)

/- The number of items with an earlier namesake. -/
def repeats (items : List α) : Nat :=
  (withFirst name items).countP fun p => p.2.isSome

/- An item repeats a name or is the first one of its name. -/
theorem repeats_add_length_firsts (items : List α) :
    repeats name items + (firsts name items).length =
      items.length := by
  have hFirsts : (firsts name items).length =
      (withFirst name items).countP fun p =>
        decide (¬ p.2.isSome = true) := by
    unfold firsts
    rw [List.length_filterMap_eq_countP]
    apply List.countP_congr
    rintro ⟨item, first⟩ _
    cases first <;> simp
  have hAll : (withFirst name items).length =
      items.length := by
    conv_rhs => rw [← map_fst_withFirst name items]
    rw [List.length_map]
  rw [hFirsts, ← hAll]
  unfold repeats
  exact (List.length_eq_countP_add_countP
    fun p : α × Option α => p.2.isSome).symm

/- The first items have the same names in any order. -/
theorem map_firsts_perm
    {items others : List α}
    (h : items.Perm others) :
    ((firsts name items).map name).Perm
      ((firsts name others).map name) := by
  rw [List.perm_ext_iff_of_nodup (nodup_map_firsts _ _)
    (nodup_map_firsts _ _)]
  intro n
  simp only [mem_map_firsts_iff, h.mem_iff]

/- Names are repeated as often in any order. -/
theorem repeats_eq_of_perm
    {items others : List α}
    (h : items.Perm others) :
    repeats name items = repeats name others := by
  have hFirsts := (map_firsts_perm name h).length_eq
  rw [List.length_map, List.length_map] at hFirsts
  have hItems := repeats_add_length_firsts name items
  have hOthers := repeats_add_length_firsts name others
  have hLength := h.length_eq
  omega

/- Different names are all first ones. -/
theorem firsts_eq_self
    {name : α → String}
    {items : List α}
    (hNodup : (items.map name).Nodup) :
    firsts name items = items := by
  have hNone :=
    (forall_withFirst_eq_none_iff name items).mpr hNodup
  have hAll : firsts name items =
      (withFirst name items).map Prod.fst := by
    unfold firsts
    rw [← List.filterMap_eq_map]
    apply List.filterMap_congr
    rintro ⟨item, first⟩ hMem
    have hFirst : first = none := hNone _ hMem
    rw [hFirst]
    rfl
  rw [hAll, map_fst_withFirst]

/-
  A check that reports on each item, and once more on each
  item with an earlier namesake, reports these kinds.
-/
theorem kinds_flatMap_withFirst
    {f : α × Option α → List Issue}
    {own : α → List Issue}
    {kind : Severity × String}
    (hNone : ∀ d, f (d, none) = own d)
    (hSome : ∀ d first,
      ((f (d, some first)).map Issue.kind).Perm
        (kind :: (own d).map Issue.kind))
    (pairs : List (α × Option α)) :
    ((pairs.flatMap f).map Issue.kind).Perm
      (List.replicate
          (pairs.countP fun p => p.2.isSome) kind ++
        ((pairs.map Prod.fst).flatMap own).map
          Issue.kind) := by
  induction pairs with
  | nil => exact List.Perm.nil
  | cons p pairs ih =>
      rcases p with ⟨d, first⟩
      cases first with
      | none =>
          rw [List.flatMap_cons, List.map_append,
            List.countP_cons_of_neg (by simp), List.map_cons,
            List.flatMap_cons, List.map_append, hNone]
          exact (ih.append_left _).trans
            (List.perm_append_comm_assoc ..)
      | some first =>
          rw [List.flatMap_cons, List.map_append,
            List.countP_cons_of_pos (by simp), List.map_cons,
            List.flatMap_cons, List.map_append,
            List.replicate_succ, List.cons_append]
          apply ((hSome d first).append_right _).trans
          rw [List.cons_append]
          apply List.Perm.cons
          exact (ih.append_left _).trans
            (List.perm_append_comm_assoc ..)

/- Such a check reports the same kinds in any order. -/
theorem sameKinds_flatMap_withFirst
    {name : α → String}
    {f : α × Option α → List Issue}
    (own : α → List Issue)
    (kind : Severity × String)
    (hNone : ∀ d, f (d, none) = own d)
    (hSome : ∀ d first,
      ((f (d, some first)).map Issue.kind).Perm
        (kind :: (own d).map Issue.kind))
    {items others : List α}
    (h : items.Perm others) :
    SameKinds ((withFirst name items).flatMap f)
      ((withFirst name others).flatMap f) := by
  have hItems :=
    kinds_flatMap_withFirst hNone hSome (withFirst name items)
  have hOthers :=
    kinds_flatMap_withFirst hNone hSome (withFirst name others)
  have hRepeats := repeats_eq_of_perm name h
  unfold repeats at hRepeats
  rw [map_fst_withFirst] at hItems hOthers
  rw [hRepeats] at hItems
  have hOwn : ((items.flatMap own).map Issue.kind).Perm
      ((others.flatMap own).map Issue.kind) :=
    (h.flatMap_right own).map Issue.kind
  exact hItems.trans
    ((hOwn.append_left _).trans hOthers.symm)

end Blueprint
