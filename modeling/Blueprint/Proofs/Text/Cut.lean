import Blueprint.Text.Cut
import Mathlib.Data.List.Infix

/-
  Cuts of a text: where they are made, and when there is
  none.

  Main statements:
    * `cutAt_append_cons`
    * `cutAround_eq_none_iff`
    * `cutAround_append_of_not_mem`
    * `cutAround_append_self`
    * `cutAround_eq_some_iff`
    * `cutAround_append_singleton`
-/

------------------------------------------------------------
-- Cutting at a Character
------------------------------------------------------------

namespace Blueprint

namespace Text

/- The cut is made at the first character that qualifies. -/
theorem cutAt_append_cons
    {p : Char → Bool}
    {before after : List Char}
    {c : Char}
    (hBefore : ∀ d ∈ before, p d = false)
    (hCut : p c = true) :
    cutAt p (before ++ c :: after) = some (before, after) := by
  induction before with
  | nil => simp [cutAt, hCut]
  | cons d before ih =>
      have hFirst : p d = false :=
        hBefore d List.mem_cons_self
      have hRest := ih fun e hMem =>
        hBefore e (List.mem_cons_of_mem _ hMem)
      simp [cutAt, hFirst, hRest]

/- There is no cut when no character qualifies. -/
theorem cutAt_eq_none
    {p : Char → Bool}
    {text : List Char}
    (hText : ∀ c ∈ text, p c = false) :
    cutAt p text = none := by
  by_contra hSome
  obtain ⟨⟨before, after⟩, hCut⟩ :=
    Option.ne_none_iff_exists'.mp hSome
  obtain ⟨c, hChar, rfl, _⟩ := eq_append_of_cutAt hCut
  rw [hText c (by simp)] at hChar
  cases hChar

/- There is no cut at a character that is absent. -/
theorem cutAt_eq_none_of_not_mem
    {c : Char}
    {text : List Char}
    (hText : c ∉ text) :
    cutAt (· == c) text = none := by
  apply cutAt_eq_none
  intro d hMem
  rw [beq_eq_false_iff_ne]
  rintro rfl
  exact hText hMem

/- The cut at a character is made at its first occurrence. -/
theorem cutAt_append_cons_of_not_mem
    {c : Char}
    {before : List Char}
    (after : List Char)
    (hBefore : c ∉ before) :
    cutAt (· == c) (before ++ c :: after) =
      some (before, after) := by
  have hOther : ∀ d ∈ before, (d == c) = false := by
    intro d hMem
    rw [beq_eq_false_iff_ne]
    rintro rfl
    exact hBefore hMem
  exact cutAt_append_cons hOther (beq_self_eq_true c)

end Text

end Blueprint

------------------------------------------------------------
-- Cutting around a Mark
------------------------------------------------------------

namespace Blueprint

namespace Text

/- There is no cut when the mark does not occur. -/
theorem cutAround_eq_none_iff
    {mark text : List Char}
    (hMark : mark ≠ []) :
    cutAround mark text = none ↔ ¬ mark <:+: text := by
  induction text with
  | nil =>
      simp [cutAround, hMark]
  | cons c rest ih =>
      rw [List.infix_cons_iff, not_or, ← ih, cutAround]
      cases hStart : stripStart mark (c :: rest) with
      | some after =>
          have hPrefix : mark <+: c :: rest :=
            ⟨after, (stripStart_eq_some_iff.mp hStart).symm⟩
          simp [hPrefix]
      | none =>
          have hPrefix : ¬ mark <+: c :: rest := by
            rintro ⟨after, hText⟩
            have hSome :=
              stripStart_eq_some_iff.mpr hText.symm
            rw [hStart] at hSome
            cases hSome
          simp [hPrefix]

/- The first character is passed where no mark starts. -/
theorem cutAround_cons_of_not_isPrefix
    {mark text : List Char}
    {c : Char}
    (hHere : ¬ mark <+: c :: text) :
    cutAround mark (c :: text) =
      (cutAround mark text).map
        fun (before, after) => (c :: before, after) := by
  rw [cutAround]
  cases hStart : stripStart mark (c :: text) with
  | some after =>
      exact absurd
        ⟨after, (stripStart_eq_some_iff.mp hStart).symm⟩
        hHere
  | none => rfl

/- A mark does not start where its first character is absent. -/
theorem cutAround_append_of_not_mem
    {m : Char}
    {mark before text : List Char}
    (hBefore : m ∉ before) :
    cutAround (m :: mark) (before ++ text) =
      (cutAround (m :: mark) text).map
        fun (left, right) => (before ++ left, right) := by
  induction before with
  | nil => simp
  | cons c before ih =>
      have hFirst : m ≠ c := by
        rintro rfl
        exact hBefore List.mem_cons_self
      have hRest := ih fun hMem =>
        hBefore (List.mem_cons_of_mem _ hMem)
      rw [List.cons_append, cutAround, stripStart,
        if_neg hFirst, hRest, Option.map_map]
      rfl

/- A mark at the start is the first one. -/
theorem cutAround_append_self
    {mark text : List Char}
    (hMark : mark ≠ []) :
    cutAround mark (mark ++ text) = some ([], text) := by
  cases mark with
  | nil => exact absurd rfl hMark
  | cons m mark =>
      have hStart : stripStart (m :: mark)
          (m :: mark ++ text) = some text :=
        stripStart_eq_some_iff.mpr rfl
      rw [List.cons_append] at hStart ⊢
      rw [cutAround, hStart]

end Text

end Blueprint

------------------------------------------------------------
-- First Occurrences
------------------------------------------------------------

namespace Blueprint

namespace Text

/-
  A mark stands between the two parts of a text, and nowhere
  earlier.
-/
structure FirstAround
    (mark text before after : List Char) : Prop where
  place : text = before ++ (mark ++ after)
  first : ∀ earlier later,
    text = earlier ++ (mark ++ later) →
      before.length ≤ earlier.length

variable {mark text before after : List Char}

/- A mark that starts a text is its first occurrence. -/
theorem firstAround_iff_of_start
    {found : List Char}
    (hText : text = mark ++ found) :
    FirstAround mark text before after ↔
      before = [] ∧ after = found := by
  constructor
  · rintro ⟨hPlace, hFirst⟩
    have hNil : before = [] :=
      List.length_eq_zero_iff.mp
        (Nat.le_zero.mp (hFirst [] found hText))
    rw [hNil, List.nil_append, hText,
      List.append_cancel_left_eq] at hPlace
    exact ⟨hNil, hPlace.symm⟩
  · rintro ⟨rfl, rfl⟩
    exact ⟨hText, fun _ _ _ => Nat.zero_le _⟩

/- Otherwise it occurs first where the rest has it first. -/
theorem firstAround_cons_iff
    {c : Char}
    (hNotHere : ∀ later, c :: text ≠ mark ++ later) :
    FirstAround mark (c :: text) before after ↔
      ∃ start, before = c :: start ∧
        FirstAround mark text start after := by
  constructor
  · rintro ⟨hPlace, hFirst⟩
    cases before with
    | nil => exact absurd hPlace (hNotHere after)
    | cons d start =>
        obtain ⟨rfl, hRest⟩ := List.cons.inj hPlace
        refine ⟨start, rfl, hRest, ?_⟩
        intro earlier later hText
        exact Nat.le_of_succ_le_succ
          (hFirst (c :: earlier) later
            (congrArg (c :: ·) hText))
  · rintro ⟨start, rfl, hPlace, hFirst⟩
    refine ⟨congrArg (c :: ·) hPlace, ?_⟩
    intro earlier later hText
    cases earlier with
    | nil => exact absurd hText (hNotHere later)
    | cons d earlier =>
        obtain ⟨_, hRest⟩ := List.cons.inj hText
        exact Nat.succ_le_succ (hFirst earlier later hRest)

/- A text is cut around the first occurrence of a mark. -/
theorem cutAround_eq_some_iff
    (hMark : mark ≠ []) :
    cutAround mark text = some (before, after) ↔
      FirstAround mark text before after := by
  induction text generalizing before with
  | nil =>
      constructor
      · exact nofun
      · rintro ⟨hPlace, _⟩
        simp [hMark] at hPlace
  | cons c rest ih =>
      unfold cutAround
      cases hStart : stripStart mark (c :: rest) with
      | some found =>
          rw [firstAround_iff_of_start
              (stripStart_eq_some_iff.mp hStart),
            Option.some.injEq, Prod.mk.injEq,
            eq_comm, @eq_comm _ found]
      | none =>
          have hNotHere : ∀ later,
              c :: rest ≠ mark ++ later := by
            intro later hText
            rw [stripStart_eq_some_iff.mpr hText] at hStart
            cases hStart
          simp only [firstAround_cons_iff hNotHere, ← ih,
            Option.map_eq_some_iff, Prod.exists,
            Prod.mk.injEq]
          constructor
          · rintro ⟨start, _, hCut, rfl, rfl⟩
            exact ⟨start, rfl, hCut⟩
          · rintro ⟨start, rfl, hCut⟩
            exact ⟨start, after, hCut, rfl, rfl⟩

/- A mark that occurs has a first occurrence. -/
theorem exists_firstAround
    (hMark : mark ≠ [])
    (hInfix : mark <:+: text) :
    ∃ before after, FirstAround mark text before after := by
  cases hCut : cutAround mark text with
  | none =>
      exact absurd hInfix
        ((cutAround_eq_none_iff hMark).mp hCut)
  | some parts =>
      exact ⟨parts.1, parts.2,
        (cutAround_eq_some_iff hMark).mp hCut⟩

/-
  A character at the end that is not part of the mark does
  not change the cut.
-/
theorem cutAround_append_singleton
    {c : Char}
    (text : List Char)
    (hMark : mark ≠ [])
    (hChar : c ∉ mark) :
    cutAround mark (text ++ [c]) =
      (cutAround mark text).map
        fun (left, right) => (left, right ++ [c]) := by
  cases hCut : cutAround mark text with
  | none =>
      rw [cutAround_eq_none_iff hMark] at hCut
      rw [Option.map_none, cutAround_eq_none_iff hMark,
        List.infix_concat_iff]
      rintro (hEnd | hInfix)
      · apply hChar
        have hLast := hEnd.getLast hMark
        rw [List.getLast_concat] at hLast
        rw [← hLast]
        exact List.getLast_mem hMark
      · exact hCut hInfix
  | some parts =>
      obtain ⟨hPlace, hFirst⟩ :=
        (cutAround_eq_some_iff hMark).mp hCut
      rw [Option.map_some, cutAround_eq_some_iff hMark]
      refine ⟨by rw [hPlace]; simp, ?_⟩
      intro earlier later hText
      rcases List.eq_nil_or_concat' later with
        rfl | ⟨start, d, rfl⟩
      · have hLast := congrArg List.getLast? hText
        rw [List.getLast?_concat, List.append_nil,
          List.getLast?_append_of_ne_nil _ hMark] at hLast
        exact absurd (List.mem_of_getLast? hLast.symm) hChar
      · rw [← List.append_assoc, ← List.append_assoc] at hText
        have hSame := (List.append_inj' hText rfl).1
        rw [List.append_assoc] at hSame
        exact hFirst earlier start hSame

end Text

end Blueprint
