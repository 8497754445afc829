import Blueprint.Proofs.Text.Words

/-
  Writing a letter in uppercase leaves at least one
  character and brings in no dot, so that a capitalized text
  is empty or dotted only when the text is. Which of the
  uppercase forms are ASCII letters or digits is told
  exactly.

  Main statements:
    * `uppercaseChar_ne_nil`
    * `eq_dot_of_mem_uppercaseChar`
    * `dot_not_mem_capitalize`
    * `all_isAlphanum_uppercaseChar_iff`
    * `head?_uppercaseChar_any_isUpper`
-/

------------------------------------------------------------
-- Uppercase Forms
------------------------------------------------------------

namespace Blueprint

namespace Text

/- The code point of the dot. -/
def dotCode : Nat :=
  46

/- A number that stands for the dot is its code point. -/
theorem eq_dotCode_of_ofNat
    {n : Nat}
    (h : Char.ofNat n = '.') :
    n = dotCode := by
  rcases toNat_ofNat_eq_or n with hSame | hZero
  · rw [← hSame, h]
    rfl
  · rw [h] at hZero
    cases hZero

/- No long uppercase form is empty or has a dot in it. -/
theorem uppercaseExpansions_undotted :
    uppercaseExpansions.all (fun (_, codes) =>
      !codes.isEmpty && !codes.contains dotCode) = true := by
  decide +kernel

/- No shift to uppercase gives a dot. -/
theorem uppercaseShifts_undotted :
    uppercaseShifts.all (fun (first, last, _, offset) =>
      decide (dotCode < first + offset) ||
        decide (last + offset < dotCode)) = true := by
  decide +kernel

/- A long uppercase form has characters, but no dot. -/
theorem undotted_of_lookup_uppercaseExpansions
    {code : Nat}
    {codes : List Nat}
    (h : uppercaseExpansions.lookup code = some codes) :
    codes ≠ [] ∧ dotCode ∉ codes := by
  rcases List.lookup_eq_some_iff.mp h with
    ⟨before, after, hTable, _⟩
  have hMem : (code, codes) ∈ uppercaseExpansions := by
    rw [hTable]
    exact List.mem_append_right _ List.mem_cons_self
  have hEntry := List.all_eq_true.mp
    uppercaseExpansions_undotted _ hMem
  simpa using hEntry

/- A shift to uppercase does not give the dot. -/
theorem ne_dot_of_shift?_uppercaseShifts
    {c d : Char}
    (h : shift? uppercaseShifts c = some d) :
    d ≠ '.' := by
  rcases List.exists_of_findSome?_eq_some h with
    ⟨⟨first, last, step, offset⟩, hMem, hShift⟩
  have hMisses := List.all_eq_true.mp
    uppercaseShifts_undotted _ hMem
  simp only [inRun, Bool.and_eq_true,
    decide_eq_true_eq] at hShift
  simp only [Bool.or_eq_true, decide_eq_true_eq] at hMisses
  split at hShift
  · rename_i hRun
    cases hShift
    intro hDot
    have hCode := eq_dotCode_of_ofNat hDot
    rw [dotCode] at hCode hMisses
    omega
  · cases hShift

/- Every character has an uppercase form. -/
theorem uppercaseChar_ne_nil (c : Char) :
    uppercaseChar c ≠ [] := by
  unfold uppercaseChar
  split
  · exact List.cons_ne_nil _ _
  · split
    · rename_i codes hLong
      rw [Ne, List.map_eq_nil_iff]
      exact (undotted_of_lookup_uppercaseExpansions hLong).1
    · exact List.cons_ne_nil _ _

/- Only the dot has a dot in its uppercase form. -/
theorem eq_dot_of_mem_uppercaseChar
    {c : Char}
    (h : '.' ∈ uppercaseChar c) :
    c = '.' := by
  unfold uppercaseChar at h
  split at h
  · rename_i hAscii
    have hAll : c.toUpper = '.' → c = '.' :=
      forall_ascii (p := fun d => d.toUpper = '.' → d = '.')
        (by decide) hAscii
    exact hAll (List.mem_singleton.mp h).symm
  · split at h
    · rename_i codes hLong
      rcases List.mem_map.mp h with ⟨code, hCode, hDot⟩
      rw [eq_dotCode_of_ofNat hDot] at hCode
      exact absurd hCode
        (undotted_of_lookup_uppercaseExpansions hLong).2
    · rw [List.mem_singleton] at h
      cases hShift : shift? uppercaseShifts c with
      | none =>
          rw [hShift] at h
          exact h.symm
      | some d =>
          rw [hShift] at h
          exact absurd h.symm
            (ne_dot_of_shift?_uppercaseShifts hShift)

/- A text without dots has none once it is capitalized. -/
theorem dot_not_mem_capitalize
    {text : List Char}
    (h : '.' ∉ text) :
    '.' ∉ capitalize text := by
  cases text with
  | nil => exact h
  | cons c rest =>
      rw [List.mem_cons, not_or] at h
      rw [capitalize, List.mem_append, not_or]
      refine ⟨?_, h.2⟩
      intro hUpper
      exact h.1 (eq_dot_of_mem_uppercaseChar hUpper).symm

end Text

end Blueprint

------------------------------------------------------------
-- Uppercase Forms in ASCII
------------------------------------------------------------

namespace Blueprint

namespace Text

/- The ASCII letters and digits are word characters. -/
theorem isIdentifierChar_of_isAlphanum
    {c : Char}
    (h : c.isAlphanum = true) :
    isIdentifierChar c = true := by
  rw [isIdentifierChar, h, Bool.true_or]

theorem toNat_lt_of_isAlphanum
    {c : Char}
    (h : c.isAlphanum = true) :
    c.toNat < 128 :=
  (isWordChar_of_isIdentifierChar
    (isIdentifierChar_of_isAlphanum h)).1

/-
  The characters with ASCII letters and digits as their
  uppercase form are these themselves and the ten letters.
-/
theorem all_isAlphanum_uppercaseChar_iff (c : Char) :
    (uppercaseChar c).all Char.isAlphanum = true ↔
      c.isAlphanum = true ∨ c ∈ asciiInUppercase := by
  have hAsciiSame : c.toNat < 128 →
      c.toUpper.isAlphanum = c.isAlphanum :=
    forall_ascii (p := fun d =>
      d.toUpper.isAlphanum = d.isAlphanum) (by decide)
  constructor
  · intro hUpper
    by_cases hAscii : c.toNat < 128
    · left
      rw [uppercaseChar_of_ascii hAscii] at hUpper
      simpa [hAsciiSame hAscii] using hUpper
    · right
      apply mem_asciiInUppercase_of_uppercaseChar hAscii
      intro d hMem
      exact isIdentifierChar_of_isAlphanum
        (List.all_eq_true.mp hUpper d hMem)
  · rintro (hChar | hLetter)
    · have hAscii := toNat_lt_of_isAlphanum hChar
      simp [uppercaseChar_of_ascii hAscii,
        hAsciiSame hAscii, hChar]
    · have hLetters : asciiInUppercase.all (fun d =>
          (uppercaseChar d).all Char.isAlphanum) = true := by
        decide +kernel
      exact List.all_eq_true.mp hLetters c hLetter

/- Such an uppercase form starts with a capital, or a digit. -/
theorem head?_uppercaseChar_any_isUpper
    {c : Char}
    (h : c.isAlphanum = true ∨ c ∈ asciiInUppercase) :
    (uppercaseChar c).head?.any Char.isUpper =
      !c.isDigit := by
  rcases h with hChar | hLetter
  · have hAscii := toNat_lt_of_isAlphanum hChar
    have hAll : c.isAlphanum = true →
        c.toUpper.isUpper = !c.isDigit :=
      forall_ascii (p := fun d => d.isAlphanum = true →
        d.toUpper.isUpper = !d.isDigit) (by decide) hAscii
    simp [uppercaseChar_of_ascii hAscii, hAll hChar]
  · have hLetters : asciiInUppercase.all (fun d =>
        (uppercaseChar d).head?.any Char.isUpper ==
          !d.isDigit) = true := by
      decide +kernel
    exact beq_iff_eq.mp
      (List.all_eq_true.mp hLetters c hLetter)

end Text

end Blueprint
