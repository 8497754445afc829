import Blueprint.Text.Cut
import Mathlib.Data.List.Basic

/-
  Splitting a text at characters: the pieces of an append,
  the place of a piece in its text, and the pieces of what
  was joined.

  Main statements:
    * `splitWhere_append_cons`
    * `exists_append_of_mem_splitWhere`
    * `splitWhere_joinWith`
-/

------------------------------------------------------------
-- Pieces of an Append
------------------------------------------------------------

namespace Blueprint

namespace Text

variable {p : Char → Bool}

/- A character in front goes to the first piece only. -/
theorem consFirst_append
    (c : Char)
    {pieces : List (List Char)}
    (more : List (List Char))
    (hSome : pieces ≠ []) :
    consFirst c (pieces ++ more) =
      consFirst c pieces ++ more := by
  cases pieces with
  | nil => exact absurd rfl hSome
  | cons piece pieces => rfl

/- A text is split on both sides of a splitting character. -/
theorem splitWhere_append_cons
    {c : Char}
    (before after : List Char)
    (hCut : p c = true) :
    splitWhere p (before ++ c :: after) =
      splitWhere p before ++ splitWhere p after := by
  induction before with
  | nil => simp [splitWhere, hCut]
  | cons d before ih =>
      by_cases hFirst : p d = true
      · simp [splitWhere, hFirst, ih]
      · have hSome := splitWhere_ne_nil p before
        simp only [List.cons_append, splitWhere, hFirst,
          Bool.false_eq_true, if_false, ih]
        exact consFirst_append d _ hSome

/- A text without a splitting character is one piece. -/
theorem splitWhere_of_forall
    {text : List Char}
    (hText : ∀ c ∈ text, p c = false) :
    splitWhere p text = [text] := by
  induction text with
  | nil => rfl
  | cons c text ih =>
      have hFirst : p c = false :=
        hText c List.mem_cons_self
      have hRest := ih fun d hMem =>
        hText d (List.mem_cons_of_mem _ hMem)
      simp [splitWhere, hFirst, hRest, consFirst]

/- The first piece ends at the first splitting character. -/
theorem splitWhere_of_cutAt
    {text before after : List Char}
    (hCut : cutAt p text = some (before, after)) :
    splitWhere p text = before :: splitWhere p after := by
  rcases eq_append_of_cutAt hCut with
    ⟨c, hChar, rfl, hBefore⟩
  rw [splitWhere_append_cons before after hChar,
    splitWhere_of_forall hBefore, List.singleton_append]

/- There is a cut unless no character qualifies. -/
theorem forall_false_of_cutAt_eq_none
    {text : List Char}
    (hCut : cutAt p text = none) :
    ∀ c ∈ text, p c = false := by
  induction text with
  | nil => simp
  | cons d text ih =>
      by_cases hFirst : p d = true
      · simp [cutAt, hFirst] at hCut
      · have hRest : cutAt p text = none := by
          simpa [cutAt, hFirst] using hCut
        intro c hMem
        rcases List.mem_cons.mp hMem with rfl | hMem
        · simpa using hFirst
        · exact ih hRest c hMem

/-
  A piece stands between two splitting characters, or at an
  end of the text. The induction is on the length, since the
  pieces after a cut are those of a shorter text.
-/
theorem exists_append_of_mem_splitWhere
    {text piece : List Char}
    (hPiece : piece ∈ splitWhere p text) :
    ∃ before after,
      text = before ++ piece ++ after ∧
        (∀ c ∈ before.getLast?, p c = true) ∧
        ∀ c ∈ after.head?, p c = true := by
  induction hLength : text.length using
    Nat.strongRecOn generalizing text with
  | _ length ih =>
  cases hCut : cutAt p text with
  | none =>
      have hWhole := forall_false_of_cutAt_eq_none hCut
      rw [splitWhere_of_forall hWhole,
        List.mem_singleton] at hPiece
      exact ⟨[], [], by simp [hPiece], by simp, by simp⟩
  | some parts =>
      rcases parts with ⟨first, rest⟩
      rw [splitWhere_of_cutAt hCut] at hPiece
      rcases eq_append_of_cutAt hCut with
        ⟨c, hChar, hText, _⟩
      rcases List.mem_cons.mp hPiece with rfl | hLater
      · refine ⟨[], c :: rest, by simp [hText], by simp, ?_⟩
        intro d hMem
        cases hMem
        exact hChar
      · have hShorter : rest.length < length := by
          have hSize := congrArg List.length hText
          simp only [List.length_append,
            List.length_cons] at hSize
          omega
        rcases ih rest.length hShorter hLater rfl with
          ⟨before, after, hRest, hBefore, hAfter⟩
        refine ⟨first ++ c :: before, after, ?_, ?_, hAfter⟩
        · rw [hText, hRest]
          simp
        · intro d hMem
          cases before with
          | nil =>
              rw [List.getLast?_concat] at hMem
              cases hMem
              exact hChar
          | cons e before =>
              apply hBefore d
              rw [List.getLast?_append_of_ne_nil _
                (List.cons_ne_nil _ _)] at hMem
              rwa [List.getLast?_cons_cons] at hMem

end Text

end Blueprint

------------------------------------------------------------
-- Splitting and Joining
------------------------------------------------------------

namespace Blueprint

namespace Text

variable {c : Char}

/- Joining puts the mark after the first of several pieces. -/
theorem joinWith_cons_cons
    (mark first second : List Char)
    (more : List (List Char)) :
    joinWith mark (first :: second :: more) =
      first ++ mark ++ joinWith mark (second :: more) :=
  rfl

/- A piece and a mark stand before pieces that are joined. -/
theorem joinWith_cons_of_ne_nil
    {pieces : List (List Char)}
    (mark piece : List Char)
    (hSome : pieces ≠ []) :
    joinWith mark (piece :: pieces) =
      piece ++ mark ++ joinWith mark pieces := by
  cases pieces with
  | nil => exact absurd rfl hSome
  | cons second more => rfl

/- Joining adds nothing but the mark. -/
theorem not_mem_joinWith
    {mark : List Char}
    {pieces : List (List Char)}
    (hMark : c ∉ mark)
    (hPieces : ∀ piece ∈ pieces, c ∉ piece) :
    c ∉ joinWith mark pieces := by
  induction pieces with
  | nil => simp [joinWith]
  | cons first pieces ih =>
      have hFirst := hPieces first List.mem_cons_self
      have hRest := ih fun piece hMem =>
        hPieces piece (List.mem_cons_of_mem _ hMem)
      cases pieces with
      | nil => exact hFirst
      | cons second pieces =>
          rw [joinWith_cons_cons, List.mem_append,
            List.mem_append]
          rintro ((hIn | hIn) | hIn)
          · exact hFirst hIn
          · exact hMark hIn
          · exact hRest hIn

/- Pieces without the character are split as they were joined. -/
theorem splitWhere_joinWith
    {pieces : List (List Char)}
    (hSome : pieces ≠ [])
    (hPieces : ∀ piece ∈ pieces, c ∉ piece) :
    splitWhere (· == c) (joinWith [c] pieces) = pieces := by
  induction pieces with
  | nil => exact absurd rfl hSome
  | cons first pieces ih =>
      have hFirst : ∀ d ∈ first, (d == c) = false := by
        intro d hMem
        rw [beq_eq_false_iff_ne]
        rintro rfl
        exact hPieces first List.mem_cons_self hMem
      cases pieces with
      | nil => exact splitWhere_of_forall hFirst
      | cons second pieces =>
          have hRest := ih (List.cons_ne_nil _ _)
            fun piece hMem =>
              hPieces piece (List.mem_cons_of_mem _ hMem)
          rw [joinWith_cons_cons, List.append_assoc,
            List.singleton_append,
            splitWhere_append_cons _ _ (by simp), hRest,
            splitWhere_of_forall hFirst,
            List.singleton_append]

end Text

end Blueprint
