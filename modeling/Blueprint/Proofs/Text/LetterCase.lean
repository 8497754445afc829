import Blueprint.Proofs.Text.Blank
import Blueprint.Text.LetterCase

/-
  Lowering the letters of a text creates no blanks, so a
  trimmed text stays trimmed.

  Main definition:
    * `blankRanges`

  Main statements:
    * `isBlank_eq_false_of_mem_lowercaseChar`
    * `toLower_eq_iff_of_lt`
    * `lowercase_eq_nil_iff`
    * `trim_lowercase`
-/

------------------------------------------------------------
-- Blanks and Shifts
------------------------------------------------------------

namespace Blueprint

namespace Text

/- The code points of the blank characters. -/
def blankRanges : List (Nat × Nat) :=
  [(0x09, 0x0D), (0x20, 0x20), (0x85, 0x85), (0xA0, 0xA0),
   (0x1680, 0x1680), (0x2000, 0x200A), (0x2028, 0x2029),
   (0x202F, 0x202F), (0x205F, 0x205F), (0x3000, 0x3000)]

/- The blank characters are those of the ranges. -/
theorem isBlank_iff (c : Char) :
    isBlank c = true ↔
      ∃ r ∈ blankRanges, r.1 ≤ c.toNat ∧ c.toNat ≤ r.2 := by
  simp only [isBlank, blankRanges, Bool.or_eq_true,
    Bool.and_eq_true, decide_eq_true_eq, beq_iff_eq,
    List.mem_cons, List.not_mem_nil, or_false,
    exists_eq_or_imp, exists_eq_left]
  omega

/- No code point of a run is shifted to a blank one. -/
def missesBlanks
    (first last : Nat)
    (offset : Int) : Bool :=
  blankRanges.all fun (low, high) =>
    decide (last + offset < low) ||
      decide (high < first + offset)

/- The shifts of the uppercase letters miss all blanks. -/
theorem missesBlanks_lowercaseShifts :
    lowercaseShifts.all (fun (first, last, _, offset) =>
      missesBlanks first last offset) = true := by
  decide +kernel

/- A number that is no code point stands for the zero one. -/
theorem toNat_ofNat_eq_or (n : Nat) :
    (Char.ofNat n).toNat = n ∨ (Char.ofNat n).toNat = 0 := by
  by_cases hValid : n.isValidChar
  · left
    rw [Char.ofNat, dif_pos hValid]
    rfl
  · right
    rw [Char.ofNat, dif_neg hValid]
    rfl

/- A shift that misses the blanks gives no blank. -/
theorem isBlank_shifted
    {first last n : Nat}
    {offset : Int}
    (hMisses : missesBlanks first last offset = true)
    (hFirst : first ≤ n)
    (hLast : n ≤ last) :
    isBlank (Char.ofNat (n + offset).toNat) = false := by
  rw [← Bool.not_eq_true, isBlank_iff]
  rintro ⟨⟨low, high⟩, hMem, hLow, hHigh⟩
  have hApart := List.all_eq_true.mp hMisses _ hMem
  simp only [Bool.or_eq_true, decide_eq_true_eq] at hApart
  have hPositive : 0 < low := by
    have hAll : ∀ r ∈ blankRanges, 0 < r.1 := by decide
    exact hAll _ hMem
  rcases toNat_ofNat_eq_or (n + offset).toNat with
    hSame | hZero
  · rw [hSame] at hLow hHigh
    omega
  · rw [hZero] at hLow
    omega

/- A shifted uppercase letter is no blank. -/
theorem isBlank_of_shift?_lowercaseShifts
    {c d : Char}
    (h : shift? lowercaseShifts c = some d) :
    isBlank d = false := by
  rcases List.exists_of_findSome?_eq_some h with
    ⟨⟨first, last, step, offset⟩, hMem, hShift⟩
  have hMisses :=
    List.all_eq_true.mp missesBlanks_lowercaseShifts _ hMem
  simp only [inRun, Bool.and_eq_true,
    decide_eq_true_eq] at hShift
  split at hShift
  · rename_i hRun
    cases hShift
    exact isBlank_shifted hMisses hRun.1.1 hRun.1.2
  · cases hShift

/- An ASCII character is not lowered to a blank. -/
theorem isBlank_toLower
    {c : Char}
    (hAscii : c.toNat < 128)
    (hBlank : isBlank c = false) :
    isBlank c.toLower = false := by
  have hAll : ∀ n < 128, isBlank (Char.ofNat n) = false →
      isBlank (Char.ofNat n).toLower = false := by
    decide
  have hChar := hAll c.toNat hAscii
  rw [Char.ofNat_toNat] at hChar
  exact hChar hBlank

/- Only letters are lowered: a mark is lowered from itself. -/
theorem toLower_eq_iff_of_lt
    {c mark : Char}
    (hMark : mark < 'A') :
    c.toLower = mark ↔ c = mark := by
  have hBound : mark.toNat < 65 := hMark
  unfold Char.toLower
  split
  case isTrue hLetter =>
      have hLow : 65 ≤ c.val.toNat := hLetter.1
      have hHigh : c.val.toNat ≤ 90 := hLetter.2
      constructor
      · rintro rfl
        have hShift : (c.val + 32).toNat =
            (c.val.toNat + 32) % 2 ^ 32 :=
          UInt32.toNat_add c.val 32
        have hValue : (c.val + 32).toNat < 65 := hBound
        omega
      · rintro rfl
        have hValue : c.val.toNat < 65 := hBound
        omega
  case isFalse => rfl

end Text

end Blueprint

------------------------------------------------------------
-- Lowercase Texts
------------------------------------------------------------

namespace Blueprint

namespace Text

/- No character is lowered to nothing. -/
theorem lowercaseChar_ne_nil (c : Char) :
    lowercaseChar c ≠ [] := by
  unfold lowercaseChar
  split
  · exact List.cons_ne_nil _ _
  · split
    · exact List.cons_ne_nil _ _
    · exact List.cons_ne_nil _ _

/- No letter is lowered to a text with blanks. -/
theorem isBlank_eq_false_of_mem_lowercaseChar
    {c d : Char}
    (hBlank : isBlank c = false)
    (hMem : d ∈ lowercaseChar c) :
    isBlank d = false := by
  unfold lowercaseChar at hMem
  split at hMem
  · rename_i hAscii
    rw [List.mem_singleton.mp hMem]
    exact isBlank_toLower hAscii hBlank
  · split at hMem
    · rcases List.mem_pair.mp hMem with rfl | rfl
      · decide
      · decide
    · rw [List.mem_singleton.mp hMem]
      cases hShift : shift? lowercaseShifts c with
      | none => exact hBlank
      | some e =>
          exact isBlank_of_shift?_lowercaseShifts hShift

/-
  The lowercase form of a character between other ones: a
  capital sigma is told apart by its place.
-/
def lowercaseAt
    (before : List Char)
    (c : Char)
    (after : List Char) : List Char :=
  if c = 'Σ' then
    [if isFinalSigma before after then 'ς' else 'σ']
  else
    lowercaseChar c

/- A text is lowered character by character. -/
theorem lowercaseAfter_cons
    (before : List Char)
    (c : Char)
    (rest : List Char) :
    lowercaseAfter before (c :: rest) =
      lowercaseAt before c rest ++
        lowercaseAfter (c :: before) rest :=
  rfl

/- No character is lowered to nothing at any place. -/
theorem lowercaseAt_ne_nil
    (before : List Char)
    (c : Char)
    (after : List Char) :
    lowercaseAt before c after ≠ [] := by
  unfold lowercaseAt
  split
  · exact List.cons_ne_nil _ _
  · exact lowercaseChar_ne_nil c

/- Only the empty text is lowered to nothing. -/
theorem lowercase_eq_nil_iff
    {text : List Char} :
    lowercase text = [] ↔ text = [] := by
  cases text with
  | nil => simp [lowercase, lowercaseAfter]
  | cons c rest =>
      simp [lowercase, lowercaseAfter_cons,
        lowercaseAt_ne_nil]

/- No letter is lowered to blanks at any place. -/
theorem isBlank_eq_false_of_mem_lowercaseAt
    {before after : List Char}
    {c d : Char}
    (hBlank : isBlank c = false)
    (hMem : d ∈ lowercaseAt before c after) :
    isBlank d = false := by
  unfold lowercaseAt at hMem
  split at hMem
  · rw [List.mem_singleton.mp hMem]
    split
    · decide
    · decide
  · exact isBlank_eq_false_of_mem_lowercaseChar hBlank hMem

/- A text that ends with a letter keeps such an end. -/
theorem isBlank_getLast?_lowercaseAfter
    {before text : List Char}
    (hLast : ∀ c ∈ text.getLast?, isBlank c = false) :
    ∀ d ∈ (lowercaseAfter before text).getLast?,
      isBlank d = false := by
  induction text generalizing before with
  | nil =>
      intro d hMem
      cases hMem
  | cons c rest ih =>
      intro d hMem
      rw [lowercaseAfter_cons] at hMem
      cases rest with
      | nil =>
          have hChar : isBlank c = false :=
            hLast c rfl
          rw [lowercaseAfter, List.append_nil] at hMem
          exact isBlank_eq_false_of_mem_lowercaseAt hChar
            (List.mem_of_getLast? hMem)
      | cons next rest =>
          have hRest : ∀ e ∈ (next :: rest).getLast?,
              isBlank e = false := by
            intro e hEnd
            apply hLast e
            rw [List.getLast?_cons_cons]
            exact hEnd
          have hSome : lowercaseAfter (c :: before)
              (next :: rest) ≠ [] := by
            rw [lowercaseAfter_cons]
            simp [lowercaseAt_ne_nil]
          rw [List.getLast?_append_of_ne_nil _ hSome] at hMem
          exact ih hRest d hMem

/- A trimmed text is trimmed in lowercase as well. -/
theorem trim_lowercase
    {text : List Char}
    (hText : trim text = text) :
    trim (lowercase text) = lowercase text := by
  rw [trim_eq_self_iff] at hText ⊢
  refine ⟨?_, isBlank_getLast?_lowercaseAfter hText.2⟩
  cases text with
  | nil =>
      intro d hMem
      cases hMem
  | cons c rest =>
      intro d hMem
      have hChar : isBlank c = false :=
        hText.1 c rfl
      rw [lowercase, lowercaseAfter_cons,
        List.head?_append_of_ne_nil _
          (lowercaseAt_ne_nil _ _ _)] at hMem
      exact isBlank_eq_false_of_mem_lowercaseAt hChar
        (List.mem_of_mem_head? hMem)

end Text

end Blueprint
