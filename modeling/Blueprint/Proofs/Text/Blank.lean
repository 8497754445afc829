import Blueprint.Text.Blank
import Mathlib.Data.List.DropRight

/-
  Trimming: what it removes, what it keeps, and the texts
  that it leaves as they are.

  Main definition:
    * `IsSolid`

  Main statements:
    * `trim_eq_nil_iff`, `isBlankText_iff`
    * `exists_eq_append_trimStart`, `exists_eq_append_trim`
    * `trim_eq_self_iff`, `trim_trim`
    * `trim_append_cons`
    * `IsSolid.trim_append`, `IsSolid.append`
    * `trimMatches_of_not_mem`, `trimMatches_enclosed`
-/

------------------------------------------------------------
-- Trimming One Side
------------------------------------------------------------

namespace Blueprint

namespace Text

/- Dropping at the end is dropping at the right. -/
theorem dropEndWhile_eq_rdropWhile
    (p : Char → Bool)
    (text : List Char) :
    dropEndWhile p text = text.rdropWhile p :=
  rfl

/- What is dropped at the start of a text is blank. -/
theorem exists_eq_append_trimStart (text : List Char) :
    ∃ blanks, (∀ c ∈ blanks, isBlank c = true) ∧
      text = blanks ++ trimStart text :=
  ⟨text.takeWhile isBlank,
    fun _ hMem => List.mem_takeWhile_imp hMem,
    List.takeWhile_append_dropWhile.symm⟩

/- A blank beginning is dropped as a whole. -/
theorem trimStart_append_of_blank
    {before text : List Char}
    (hBefore : ∀ c ∈ before, isBlank c = true) :
    trimStart (before ++ text) = trimStart text :=
  List.dropWhile_append_of_pos hBefore

/- Trimming the start of a text stays inside its first part. -/
theorem trimStart_append_of_not_blank
    {before : List Char}
    (text : List Char)
    (hBefore : ∃ c ∈ before, isBlank c = false) :
    trimStart (before ++ text) = trimStart before ++ text := by
  unfold trimStart
  rw [List.dropWhile_append, if_neg]
  rw [List.isEmpty_iff, List.dropWhile_eq_nil_iff]
  intro hAll
  rcases hBefore with ⟨c, hMem, hBlank⟩
  rw [hAll c hMem] at hBlank
  cases hBlank

/- A text that starts with a letter keeps its start. -/
theorem trimStart_cons
    {c : Char}
    {rest : List Char}
    (hBlank : isBlank c = false) :
    trimStart (c :: rest) = c :: rest := by
  unfold trimStart
  rw [List.dropWhile_cons_of_neg (by simp [hBlank])]

/- A blank end is dropped as a whole. -/
theorem trimEnd_append_of_blank
    (text : List Char)
    {after : List Char}
    (hAfter : ∀ c ∈ after, isBlank c = true) :
    trimEnd (text ++ after) = trimEnd text := by
  unfold trimEnd dropEndWhile
  rw [List.reverse_append, List.dropWhile_append_of_pos]
  intro c hMem
  exact hAfter c (List.mem_reverse.mp hMem)

/- Trimming the end of a text stays inside its last part. -/
theorem trimEnd_append_of_not_blank
    (text : List Char)
    {after : List Char}
    (hAfter : ∃ c ∈ after, isBlank c = false) :
    trimEnd (text ++ after) = text ++ trimEnd after := by
  have hReverse : ∃ c ∈ after.reverse, isBlank c = false := by
    rcases hAfter with ⟨c, hMem, hBlank⟩
    exact ⟨c, List.mem_reverse.mpr hMem, hBlank⟩
  have hStart :=
    trimStart_append_of_not_blank text.reverse hReverse
  unfold trimStart at hStart
  unfold trimEnd dropEndWhile
  rw [List.reverse_append, hStart, List.reverse_append,
    List.reverse_reverse]

/- The start of a trimmed end is not touched. -/
theorem trimEnd_append_cons
    (text rest : List Char)
    {c : Char}
    (hBlank : isBlank c = false) :
    trimEnd (text ++ c :: rest) =
      text ++ c :: trimEnd rest := by
  have hMark : ∃ d ∈ c :: rest, isBlank d = false :=
    ⟨c, List.mem_cons_self, hBlank⟩
  rw [trimEnd_append_of_not_blank text hMark]
  by_cases hRest : ∃ d ∈ rest, isBlank d = false
  · have hTail := trimEnd_append_of_not_blank [c] hRest
    rw [List.singleton_append, List.singleton_append] at hTail
    rw [hTail]
  · have hBlanks : ∀ d ∈ rest, isBlank d = true := by
      intro d hMem
      by_contra hNot
      exact hRest ⟨d, hMem, by simpa using hNot⟩
    have hTail := trimEnd_append_of_blank [c] hBlanks
    have hNil := trimEnd_append_of_blank [] hBlanks
    rw [List.nil_append] at hNil
    rw [List.singleton_append] at hTail
    rw [hTail, hNil]
    simp [trimEnd, dropEndWhile, hBlank]

/- Trimming the end keeps a beginning. -/
theorem trimEnd_isPrefix (text : List Char) :
    trimEnd text <+: text := by
  unfold trimEnd
  rw [dropEndWhile_eq_rdropWhile]
  exact List.rdropWhile_prefix _ _

end Text

end Blueprint

------------------------------------------------------------
-- Trimming Both Sides
------------------------------------------------------------

namespace Blueprint

namespace Text

/- Exactly the texts of blanks are trimmed to nothing. -/
theorem trim_eq_nil_iff
    {text : List Char} :
    trim text = [] ↔ ∀ c ∈ text, isBlank c = true := by
  unfold trim trimEnd trimStart
  rw [dropEndWhile_eq_rdropWhile, List.rdropWhile_eq_nil_iff]
  constructor
  · intro hDropped
    by_contra hNot
    push Not at hNot
    rcases hNot with ⟨c, hMem, hBlank⟩
    have hCons : text.dropWhile isBlank ≠ [] := by
      rw [Ne, List.dropWhile_eq_nil_iff]
      intro hAll
      exact hBlank (hAll c hMem)
    have hHead := List.head_dropWhile_not isBlank hCons
    rw [hDropped _ (List.head_mem hCons)] at hHead
    cases hHead
  · intro hAll c hMem
    exact hAll c ((List.dropWhile_sublist _).subset hMem)

/- A text is blank when all its characters are. -/
theorem isBlankText_iff
    {text : List Char} :
    isBlankText text = true ↔ ∀ c ∈ text, isBlank c = true := by
  rw [isBlankText, List.isEmpty_iff, trim_eq_nil_iff]

/- A text that is not blank has a letter. -/
theorem exists_not_blank_of_trim_ne_nil
    {text : List Char}
    (hText : trim text ≠ []) :
    ∃ c ∈ text, isBlank c = false := by
  rw [Ne, trim_eq_nil_iff] at hText
  push Not at hText
  rcases hText with ⟨c, hMem, hBlank⟩
  exact ⟨c, hMem, by simpa using hBlank⟩

/- Trimming removes blanks on both sides and nothing else. -/
theorem exists_eq_append_trim (text : List Char) :
    ∃ before after,
      text = before ++ trim text ++ after ∧
        (∀ c ∈ before, isBlank c = true) ∧
        ∀ c ∈ after, isBlank c = true := by
  obtain ⟨before, hBefore, hStart⟩ :=
    exists_eq_append_trimStart text
  have hEnd : trim text ++
      (trimStart text).rtakeWhile isBlank =
        trimStart text :=
    List.rdropWhile_append_rtakeWhile
  refine ⟨before, (trimStart text).rtakeWhile isBlank, ?_,
    hBefore, fun _ hMem => List.mem_rtakeWhile_imp hMem⟩
  rw [List.append_assoc, hEnd]
  exact hStart

/- What is left of a trimmed text is one part of it. -/
theorem trim_isInfix (text : List Char) :
    trim text <:+: text := by
  obtain ⟨before, after, hText, _, _⟩ :=
    exists_eq_append_trim text
  exact ⟨before, after, hText.symm⟩

/- A trimmed text is no longer than the text. -/
theorem length_trim_le (text : List Char) :
    (trim text).length ≤ text.length :=
  (trim_isInfix text).length_le

/- Blanks on the sides do not matter. -/
theorem trim_append_of_blank
    (text : List Char)
    {before after : List Char}
    (hBefore : ∀ c ∈ before, isBlank c = true)
    (hAfter : ∀ c ∈ after, isBlank c = true) :
    trim (before ++ text ++ after) = trim text := by
  unfold trim
  rw [List.append_assoc, trimStart_append_of_blank hBefore]
  by_cases hText : ∃ c ∈ text, isBlank c = false
  · rw [trimStart_append_of_not_blank after hText,
      trimEnd_append_of_blank _ hAfter]
  · have hAll : ∀ c ∈ text ++ after, isBlank c = true := by
      intro c hMem
      rcases List.mem_append.mp hMem with hLeft | hRight
      · by_contra hNot
        exact hText ⟨c, hLeft, by simpa using hNot⟩
      · exact hAfter c hRight
    have hWhole := trim_eq_nil_iff.mpr hAll
    have hPart : trim text = [] := by
      rw [trim_eq_nil_iff]
      intro c hMem
      exact hAll c (List.mem_append_left _ hMem)
    unfold trim at hWhole hPart
    rw [hWhole, hPart]

end Text

end Blueprint

------------------------------------------------------------
-- Trimmed Texts
------------------------------------------------------------

namespace Blueprint

namespace Text

/- A trimmed text has no blank at either end. -/
theorem trim_eq_self_iff
    {text : List Char} :
    trim text = text ↔
      (∀ c ∈ text.head?, isBlank c = false) ∧
        ∀ c ∈ text.getLast?, isBlank c = false := by
  cases text with
  | nil => simp [trim, trimStart, trimEnd, dropEndWhile]
  | cons c rest =>
      have hLast :
          trimEnd (c :: rest) = c :: rest ↔
            isBlank ((c :: rest).getLast (by simp)) =
              false := by
        unfold trimEnd
        rw [dropEndWhile_eq_rdropWhile,
          List.rdropWhile_eq_self_iff]
        simp
      rw [List.getLast?_eq_some_getLast (by simp)]
      simp only [List.head?_cons, Option.mem_def,
        Option.some.injEq, forall_eq']
      constructor
      · intro hTrim
        have hBlank : isBlank c = false := by
          by_contra hNot
          have hLength := congrArg List.length hTrim
          have hDrop : trimStart (c :: rest) =
              trimStart rest :=
            List.dropWhile_cons_of_pos (by simpa using hNot)
          have hEnd := (List.rdropWhile_prefix isBlank
            (l := trimStart rest)).length_le
          have hStart := (List.dropWhile_sublist isBlank
            (l := rest)).length_le
          unfold trim trimEnd at hLength
          rw [hDrop, dropEndWhile_eq_rdropWhile] at hLength
          unfold trimStart at hEnd hLength
          simp only [List.length_cons] at hLength
          omega
        refine ⟨hBlank, hLast.mp ?_⟩
        unfold trim at hTrim
        rwa [trimStart_cons hBlank] at hTrim
      · rintro ⟨hBlank, hEnd⟩
        unfold trim
        rw [trimStart_cons hBlank]
        exact hLast.mpr hEnd

/- A blank in front does not matter. -/
theorem trim_cons_of_blank
    {c : Char}
    (text : List Char)
    (hBlank : isBlank c = true) :
    trim (c :: text) = trim text := by
  unfold trim trimStart
  rw [List.dropWhile_cons_of_pos hBlank]

/- Trimming twice is trimming once. -/
theorem trim_trim (text : List Char) :
    trim (trim text) = trim text := by
  rcases exists_eq_append_trim text with
    ⟨before, after, hText, hBefore, hAfter⟩
  have hSame :=
    trim_append_of_blank (trim text) hBefore hAfter
  rw [← hText] at hSame
  exact hSame.symm

/- A mark that is no blank stays when a text is trimmed. -/
theorem trim_append_cons
    (before after : List Char)
    {c : Char}
    (hBlank : isBlank c = false) :
    trim (before ++ c :: after) =
      trimStart before ++ c :: trimEnd after := by
  have hStart : trimStart (before ++ c :: after) =
      trimStart before ++ c :: after := by
    by_cases hBefore : ∃ d ∈ before, isBlank d = false
    · exact trimStart_append_of_not_blank _ hBefore
    · have hBlanks : ∀ d ∈ before, isBlank d = true := by
        simpa using hBefore
      have hNil : trimStart before = [] :=
        List.dropWhile_eq_nil_iff.mpr hBlanks
      rw [trimStart_append_of_blank hBlanks, hNil,
        trimStart_cons hBlank]
      rfl
  unfold trim
  rw [hStart, trimEnd_append_cons _ _ hBlank]

/- Trimming the start first changes nothing. -/
theorem trim_trimStart (text : List Char) :
    trim (trimStart text) = trim text := by
  unfold trim trimStart
  rw [List.dropWhile_idempotent]

/- Trimming the end first changes nothing. -/
theorem trim_trimEnd (text : List Char) :
    trim (trimEnd text) = trim text := by
  have hEnd : trimEnd text ++ text.rtakeWhile isBlank =
      text :=
    List.rdropWhile_append_rtakeWhile
  have hBlank : ∀ c ∈ text.rtakeWhile isBlank,
      isBlank c = true := by
    intro c hMem
    exact List.mem_rtakeWhile_imp hMem
  have hNil : ∀ c ∈ ([] : List Char), isBlank c = true := by
    simp
  have hSame :=
    trim_append_of_blank (trimEnd text) hNil hBlank
  rw [List.nil_append, hEnd] at hSame
  exact hSame.symm

/- A word has nothing to trim. -/
theorem trim_eq_self_of_forall
    {word : List Char}
    (hWord : ∀ x ∈ word, isBlank x = false) :
    trim word = word := by
  rw [trim_eq_self_iff]
  constructor
  · intro x hHead
    exact hWord x (List.mem_of_mem_head? hHead)
  · intro x hLast
    exact hWord x (List.mem_of_getLast? hLast)

end Text

end Blueprint

------------------------------------------------------------
-- Solid Texts
------------------------------------------------------------

namespace Blueprint

namespace Text

/- A text with something in it and no blank at either end. -/
structure IsSolid (text : List Char) : Prop where
  ne_nil : text ≠ []
  first : ∀ c ∈ text.head?, isBlank c = false
  last : ∀ c ∈ text.getLast?, isBlank c = false

/- A solid text has nothing to trim. -/
theorem IsSolid.trim_eq
    {text : List Char}
    (hText : IsSolid text) :
    trim text = text :=
  trim_eq_self_iff.mpr ⟨hText.first, hText.last⟩

/- Nor is there anything at its start. -/
theorem IsSolid.trimStart_eq
    {text : List Char}
    (hText : IsSolid text) :
    trimStart text = text := by
  cases text with
  | nil => rfl
  | cons c rest => exact trimStart_cons (hText.first c rfl)

/- Solid texts are those that trimming leaves as they are. -/
theorem isSolid_iff
    {text : List Char} :
    IsSolid text ↔ text ≠ [] ∧ trim text = text := by
  rw [trim_eq_self_iff]
  constructor
  · rintro ⟨hSome, hFirst, hLast⟩
    exact ⟨hSome, hFirst, hLast⟩
  · rintro ⟨hSome, hFirst, hLast⟩
    exact ⟨hSome, hFirst, hLast⟩

instance (text : List Char) : Decidable (IsSolid text) :=
  decidable_of_iff _ isSolid_iff.symm

/- A text without blanks is solid. -/
theorem isSolid_of_forall
    {text : List Char}
    (hSome : text ≠ [])
    (hText : ∀ c ∈ text, isBlank c = false) :
    IsSolid text where
  ne_nil := hSome
  first := by
    intro c hHead
    exact hText c (List.mem_of_mem_head? hHead)
  last := by
    intro c hLast
    exact hText c (List.mem_of_getLast? hLast)

/- A single letter is solid. -/
theorem isSolid_singleton
    {c : Char}
    (hBlank : isBlank c = false) :
    IsSolid [c] := by
  apply isSolid_of_forall (List.cons_ne_nil _ _)
  intro d hMem
  rw [List.mem_singleton.mp hMem]
  exact hBlank

/- What ends a solid text is blank only if it is empty. -/
theorem IsSolid.isBlankText_drop
    {text : List Char}
    (hText : IsSolid text)
    (n : Nat) :
    isBlankText (text.drop n) = (text.drop n).isEmpty := by
  cases hDrop : text.drop n with
  | nil => rfl
  | cons c rest =>
      have hSome := List.cons_ne_nil c rest
      have hLast : (c :: rest).getLast? = text.getLast? := by
        rw [← hDrop, List.getLast?_drop, if_neg]
        rw [← List.drop_eq_nil_iff, hDrop]
        exact hSome
      have hEnd := List.getLast?_eq_some_getLast hSome
      have hNot := hText.last _ (hLast.symm.trans hEnd)
      rw [List.isEmpty_cons, ← Bool.not_eq_true,
        isBlankText_iff]
      intro hBlank
      rw [hBlank _ (List.getLast_mem hSome)] at hNot
      cases hNot

/- Trimming takes away the blanks around a solid text. -/
theorem IsSolid.trim_append
    {text before after : List Char}
    (hText : IsSolid text)
    (hBefore : ∀ c ∈ before, isBlank c = true)
    (hAfter : ∀ c ∈ after, isBlank c = true) :
    trim (before ++ text ++ after) = text := by
  rw [trim_append_of_blank text hBefore hAfter,
    hText.trim_eq]

/- What starts and ends with a solid text is solid. -/
theorem IsSolid.append
    {first last : List Char}
    (hFirst : IsSolid first)
    (hLast : IsSolid last)
    (between : List Char) :
    IsSolid (first ++ between ++ last) where
  ne_nil := by simp [hFirst.ne_nil]
  first := by
    intro c hHead
    rw [List.append_assoc,
      List.head?_append_of_ne_nil _ hFirst.ne_nil] at hHead
    exact hFirst.first c hHead
  last := by
    intro c hEnd
    rw [List.getLast?_append_of_ne_nil _ hLast.ne_nil]
      at hEnd
    exact hLast.last c hEnd

/- What starts and ends with a letter is solid. -/
theorem isSolid_enclosed
    {first last : Char}
    (hFirst : isBlank first = false)
    (hLast : isBlank last = false)
    (between : List Char) :
    IsSolid (first :: between ++ [last]) :=
  (isSolid_singleton hFirst).append
    (isSolid_singleton hLast) between

end Text

end Blueprint

------------------------------------------------------------
-- Dropping Marks
------------------------------------------------------------

namespace Blueprint

namespace Text

/- A text without a mark has none to drop. -/
theorem dropWhile_of_not_mem
    {mark : Char}
    {text : List Char}
    (hText : mark ∉ text) :
    text.dropWhile (· == mark) = text := by
  cases text with
  | nil => rfl
  | cons c rest =>
      have hFirst : c ≠ mark := by
        rintro rfl
        exact hText List.mem_cons_self
      rw [List.dropWhile_cons_of_neg (by simpa using hFirst)]

/- A text without a mark has none to drop at either end. -/
theorem trimMatches_of_not_mem
    {mark : Char}
    {text : List Char}
    (hText : mark ∉ text) :
    trimMatches mark text = text := by
  have hReverse : mark ∉ text.reverse := by
    rwa [List.mem_reverse]
  unfold trimMatches dropEndWhile
  rw [dropWhile_of_not_mem hText,
    dropWhile_of_not_mem hReverse, List.reverse_reverse]

/- A single mark at the end of a text is dropped. -/
theorem trimMatches_append_mark
    {mark : Char}
    {text : List Char}
    (hText : mark ∉ text) :
    trimMatches mark (text ++ [mark]) = text := by
  have hReverse : mark ∉ text.reverse := by
    rwa [List.mem_reverse]
  cases text with
  | nil => simp [trimMatches, dropEndWhile]
  | cons c rest =>
      have hFirst : c ≠ mark := by
        rintro rfl
        exact hText List.mem_cons_self
      have hStart : (c :: rest ++ [mark]).dropWhile
          (· == mark) = c :: rest ++ [mark] :=
        List.dropWhile_cons_of_neg (by simpa using hFirst)
      unfold trimMatches dropEndWhile
      rw [hStart, List.reverse_append, List.reverse_singleton,
        List.singleton_append,
        List.dropWhile_cons_of_pos (by simp),
        dropWhile_of_not_mem hReverse, List.reverse_reverse]

/- A single pair of marks around a text is dropped. -/
theorem trimMatches_enclosed
    {mark : Char}
    {text : List Char}
    (hText : mark ∉ text) :
    trimMatches mark (mark :: text ++ [mark]) = text := by
  have hStart : trimMatches mark (mark :: text ++ [mark]) =
      trimMatches mark (text ++ [mark]) := by
    unfold trimMatches
    rw [List.cons_append,
      List.dropWhile_cons_of_pos (by simp)]
  rw [hStart, trimMatches_append_mark hText]

end Text

end Blueprint
