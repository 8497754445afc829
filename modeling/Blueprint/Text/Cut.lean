/-
  Cutting text at characters and at marks.

  Main definitions:
    * `stripStart`, `stripEnd`
    * `cutAt`, `cutAround`
    * `splitWhere`
    * `joinWith`

  Main statements:
    * `stripStart_eq_some_iff`
    * `eq_append_of_cutAt`
-/

------------------------------------------------------------
-- Stripping a Mark
------------------------------------------------------------

namespace Blueprint

namespace Text

/- What follows `mark` in a text that starts with it. -/
def stripStart : List Char → List Char → Option (List Char)
| [], text => some text
| _ :: _, [] => none
| m :: mark, c :: text =>
    if m = c then stripStart mark text else none

/- What precedes `mark` in a text that ends with it. -/
def stripEnd
    (mark text : List Char) : Option (List Char) :=
  (stripStart mark.reverse text.reverse).map List.reverse

/- A mark is stripped exactly from its continuations. -/
theorem stripStart_eq_some_iff
    {mark text rest : List Char} :
    stripStart mark text = some rest ↔
      text = mark ++ rest := by
  induction mark generalizing text with
  | nil => simp [stripStart]
  | cons m mark ih =>
      cases text with
      | nil => simp [stripStart]
      | cons c text =>
          by_cases h : m = c
          · simp [stripStart, h, ih]
          · simp [stripStart, h, Ne.symm h]

/- A mark is stripped from the end of exactly its extensions. -/
theorem stripEnd_eq_some_iff
    {mark text rest : List Char} :
    stripEnd mark text = some rest ↔
      text = rest ++ mark := by
  unfold stripEnd
  rw [Option.map_eq_some_iff]
  constructor
  · rintro ⟨r, hr, rfl⟩
    have hText := stripStart_eq_some_iff.mp hr
    have hRev := congrArg List.reverse hText
    simpa using hRev
  · rintro rfl
    exact ⟨rest.reverse,
      stripStart_eq_some_iff.mpr (by simp), by simp⟩

end Text

end Blueprint

------------------------------------------------------------
-- Cutting Once
------------------------------------------------------------

namespace Blueprint

namespace Text

/-
  The parts before and after the first character satisfying
  `p`.
-/
def cutAt
    (p : Char → Bool) :
    List Char → Option (List Char × List Char)
| [] => none
| c :: rest =>
    if p c then
      some ([], rest)
    else
      (cutAt p rest).map fun (before, after) =>
        (c :: before, after)

/-
  The parts before and after the first occurrence of a
  nonempty mark.
-/
def cutAround
    (mark : List Char) :
    List Char → Option (List Char × List Char)
| [] => none
| c :: rest =>
    match stripStart mark (c :: rest) with
    | some after => some ([], after)
    | none =>
        (cutAround mark rest).map fun (before, after) =>
          (c :: before, after)

/- A cut loses exactly the character it is made at. -/
theorem eq_append_of_cutAt
    {p : Char → Bool}
    {text before after : List Char}
    (h : cutAt p text = some (before, after)) :
    ∃ c, p c = true ∧ text = before ++ c :: after ∧
      ∀ d ∈ before, p d = false := by
  induction text generalizing before with
  | nil => simp [cutAt] at h
  | cons c rest ih =>
      by_cases hc : p c = true
      · simp only [cutAt, hc, if_true, Option.some.injEq,
          Prod.mk.injEq] at h
        obtain ⟨rfl, rfl⟩ := h
        exact ⟨c, hc, by simp, by simp⟩
      · have hFalse : p c = false := by simpa using hc
        simp only [cutAt, hFalse, Bool.false_eq_true,
          if_false, Option.map_eq_some_iff] at h
        obtain ⟨⟨b, a⟩, hCut, hEq⟩ := h
        simp only [Prod.mk.injEq] at hEq
        obtain ⟨rfl, rfl⟩ := hEq
        obtain ⟨d, hd, hText, hBefore⟩ := ih hCut
        refine ⟨d, hd, by simp [hText], ?_⟩
        intro e he
        rcases List.mem_cons.mp he with rfl | he
        · exact hFalse
        · exact hBefore e he

end Text

end Blueprint

------------------------------------------------------------
-- Splitting and Joining
------------------------------------------------------------

namespace Blueprint

namespace Text

/- Put a character in front of the first piece. -/
def consFirst
    (c : Char) :
    List (List Char) → List (List Char)
| [] => [[c]]
| piece :: more => (c :: piece) :: more

/- The pieces between the characters satisfying `p`. -/
def splitWhere
    (p : Char → Bool) :
    List Char → List (List Char)
| [] => [[]]
| c :: rest =>
    if p c then
      [] :: splitWhere p rest
    else
      consFirst c (splitWhere p rest)

/- The pieces of a list, with a mark between neighbours. -/
def joinWith
    (mark : List Char) :
    List (List Char) → List Char
| [] => []
| [piece] => piece
| piece :: more => piece ++ mark ++ joinWith mark more

/- There is always a piece. -/
theorem splitWhere_ne_nil
    (p : Char → Bool)
    (text : List Char) :
    splitWhere p text ≠ [] := by
  cases text with
  | nil => simp [splitWhere]
  | cons c rest =>
      unfold splitWhere
      split
      · simp
      · cases splitWhere p rest <;> simp [consFirst]

end Text

end Blueprint
