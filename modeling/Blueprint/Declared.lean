/-
  First occurrences of names in a list of declarations, and
  names in order.

  Where a name is declared more than once, the first
  declaration counts. Every later one is paired with it.

  Main definitions:
    * `withFirst`
    * `firsts`
    * `sortNames`

  Main statements:
    * `map_fst_withFirst`
    * `sortNames_perm`
-/

------------------------------------------------------------
-- First Occurrences
------------------------------------------------------------

namespace Blueprint

variable {α : Type}

/-
  Pair every item with the item of `seen` or of the list
  before it that first had its name, if there is one.
-/
def withFirstAfter
    (name : α → String)
    (seen : List α) : List α → List (α × Option α)
| [] => []
| item :: items =>
    match seen.find? fun first => name first == name item with
    | some first =>
        (item, some first) :: withFirstAfter name seen items
    | none =>
        (item, none) ::
          withFirstAfter name (item :: seen) items

/-
  Pair every item with the first item of its name, unless it
  is that item itself.
-/
def withFirst
    (name : α → String)
    (items : List α) : List (α × Option α) :=
  withFirstAfter name [] items

/- The first item of every name, in order. -/
def firsts
    (name : α → String)
    (items : List α) : List α :=
  (withFirst name items).filterMap fun (item, first) =>
    if first.isNone then some item else none

/- Pairing loses and reorders nothing. -/
theorem map_fst_withFirstAfter
    (name : α → String)
    (seen items : List α) :
    (withFirstAfter name seen items).map Prod.fst = items := by
  induction items generalizing seen with
  | nil => rfl
  | cons item items ih =>
      unfold withFirstAfter
      split <;> simp [ih]

/- Pairing loses and reorders nothing. -/
theorem map_fst_withFirst
    (name : α → String)
    (items : List α) :
    (withFirst name items).map Prod.fst = items :=
  map_fst_withFirstAfter name [] items

end Blueprint

------------------------------------------------------------
-- Names in Order
------------------------------------------------------------

namespace Blueprint

/- Names in the order of their code points. -/
def sortNames (names : List String) : List String :=
  names.mergeSort fun a b => decide (a ≤ b)

/- Sorting keeps every name as often as it occurs. -/
theorem sortNames_perm (names : List String) :
    (sortNames names).Perm names :=
  List.mergeSort_perm _ _

end Blueprint
