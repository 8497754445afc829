import Blueprint.Proofs.Text.Cut
import Blueprint.Proofs.Text.Nesting
import Blueprint.Proofs.Text.Words

/-
  Identifiers among other text: they hold no blank and no
  delimiter, and end where the next other character stands.

  Main statements:
    * `isSolid_of_isIdentifier`
    * `not_mem_of_isIdentifier`
    * `cutAt_identifier_append`
    * `takeWhile_identifier_append`
    * `stripStart_eq_none_of_run`
-/

------------------------------------------------------------
-- Characters of Identifiers
------------------------------------------------------------

namespace Blueprint

namespace Text

/- No blank is in an identifier. -/
theorem isBlank_of_isIdentifierChar
    {c : Char}
    (hChar : isIdentifierChar c = true) :
    isBlank c = false := by
  have hWord := (isWordChar_of_isIdentifierChar hChar).2
  by_contra hNot
  have hBlank : isBlank c = true := by simpa using hNot
  have hGap := isWordChar_of_isBlank hBlank
  rw [hWord] at hGap
  cases hGap

/- No quote and no bracket is in an identifier. -/
theorem isPlain_of_isIdentifierChar
    {c : Char}
    (hChar : isIdentifierChar c = true) :
    IsPlain c := by
  refine ⟨?_, ?_, ?_, ?_, ?_⟩ <;>
    (rintro rfl; exact absurd hChar (by decide))

/- A run of identifier characters is solid. -/
theorem isSolid_of_isIdentifierChar
    {text : List Char}
    (hSome : text ≠ [])
    (hText : ∀ c ∈ text, isIdentifierChar c = true) :
    IsSolid text := by
  apply isSolid_of_forall hSome
  intro c hMem
  exact isBlank_of_isIdentifierChar (hText c hMem)

/- An identifier is solid. -/
theorem isSolid_of_isIdentifier
    {text : List Char}
    (hText : isIdentifier text = true) :
    IsSolid text :=
  isSolid_of_isIdentifierChar (isIdentifier_ne_nil hText)
    (forall_isIdentifierChar hText)

/- What is no identifier character is in no identifier. -/
theorem not_mem_of_isIdentifier
    {text : List Char}
    {c : Char}
    (hText : isIdentifier text = true)
    (hChar : isIdentifierChar c = false) :
    c ∉ text := by
  intro hMem
  rw [forall_isIdentifierChar hText c hMem] at hChar
  cases hChar

/- Nor does it start an identifier. -/
theorem head?_ne_of_isIdentifier
    {text : List Char}
    {c : Char}
    (hText : isIdentifier text = true)
    (hChar : isIdentifierChar c = false) :
    text.head? ≠ some c := by
  intro hHead
  exact not_mem_of_isIdentifier hText hChar
    (List.mem_of_mem_head? hHead)

/- An identifier has no quotes to take off. -/
theorem unquote?_identifier
    {text : List Char}
    (hText : isIdentifier text = true) :
    unquote? text = none :=
  unquote?_eq_none (isSolid_of_isIdentifier hText)
    (head?_ne_of_isIdentifier hText (by decide))

/- An identifier is cut off at the mark that follows it. -/
theorem cutAt_identifier_append
    {text : List Char}
    {mark : Char}
    (rest : List Char)
    (hText : isIdentifier text = true)
    (hMark : isIdentifierChar mark = false) :
    cutAt (· == mark) (text ++ mark :: rest) =
      some (text, rest) :=
  cutAt_append_cons_of_not_mem rest
    (not_mem_of_isIdentifier hText hMark)

/- An identifier is scanned at any depth. -/
theorem scans_identifier
    {target : Char}
    {text : List Char}
    (depth : Int)
    (hText : isIdentifier text = true)
    (hTarget : isIdentifierChar target = false) :
    Scans target (.plain depth) text (.plain depth) := by
  apply scans_plain
  · intro c hMem
    exact isPlain_of_isIdentifierChar
      (forall_isIdentifierChar hText c hMem)
  · intro _
    exact not_mem_of_isIdentifier hText hTarget

end Text

end Blueprint

------------------------------------------------------------
-- The End of an Identifier
------------------------------------------------------------

namespace Blueprint

namespace Text

/- A run ends where another character stands. -/
theorem takeWhile_identifier_append
    {text : List Char}
    {c : Char}
    (rest : List Char)
    (hText : ∀ d ∈ text, isIdentifierChar d = true)
    (hChar : isIdentifierChar c = false) :
    (text ++ c :: rest).takeWhile isIdentifierChar = text ∧
      (text ++ c :: rest).dropWhile isIdentifierChar =
        c :: rest := by
  have hStop : ¬ isIdentifierChar c = true := by
    simp [hChar]
  rw [List.takeWhile_append_of_pos hText,
    List.dropWhile_append_of_pos hText,
    List.takeWhile_cons_of_neg hStop,
    List.dropWhile_cons_of_neg hStop, List.append_nil]
  exact ⟨rfl, rfl⟩

/-
  A text that starts with a run and a mark starts with no
  run before another mark.
-/
theorem stripStart_eq_none_of_run
    {word text rest : List Char}
    {mark c : Char}
    (hWord : ∀ d ∈ word, isIdentifierChar d = true)
    (hMark : isIdentifierChar mark = false)
    (hText : ∀ d ∈ text, isIdentifierChar d = true)
    (hChar : isIdentifierChar c = false)
    (hDiffer : c ≠ mark) :
    stripStart (word ++ [mark]) (text ++ c :: rest) =
      none := by
  by_contra hNot
  rcases Option.ne_none_iff_exists'.mp hNot with
    ⟨after, hStrip⟩
  have hSame := stripStart_eq_some_iff.mp hStrip
  rw [List.append_assoc, List.singleton_append] at hSame
  have hLeft :=
    (takeWhile_identifier_append rest hText hChar).2
  have hRight :=
    (takeWhile_identifier_append after hWord hMark).2
  rw [← hSame, hLeft] at hRight
  exact hDiffer (List.cons.inj hRight).1

end Text

end Blueprint
