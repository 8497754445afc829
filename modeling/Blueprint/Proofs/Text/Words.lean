import Blueprint.Proofs.Text.LetterCase
import Blueprint.Proofs.Text.Split
import Blueprint.Text.Words

/-
  Words: they are the maximal runs of word characters, and
  a word that becomes an identifier once it is capitalized
  has no other characters.

  Main definitions:
    * `IsWordOf`
    * `asciiInUppercase`

  Main statements:
    * `words_append_cons`
    * `words_append_word`
    * `mem_words_iff`
    * `mem_asciiInUppercase_of_uppercaseChar`
    * `isWordChar_of_capitalize`
-/

------------------------------------------------------------
-- Words of an Append
------------------------------------------------------------

namespace Blueprint

namespace Text

/- A text has the words on both sides of a gap. -/
theorem words_append_cons
    {c : Char}
    (before after : List Char)
    (hGap : isWordChar c = false) :
    words (before ++ c :: after) =
      words before ++ words after := by
  unfold words
  rw [splitWhere_append_cons before after (by simp [hGap]),
    List.filter_append]

/- A gap in front of a text belongs to no word. -/
theorem words_cons_gap
    {c : Char}
    (text : List Char)
    (hGap : isWordChar c = false) :
    words (c :: text) = words text :=
  words_append_cons [] text hGap

/- No character of a gap in front belongs to a word. -/
theorem words_append_gap
    {gap : List Char}
    (text : List Char)
    (hGap : ∀ c ∈ gap, isWordChar c = false) :
    words (gap ++ text) = words text := by
  induction gap with
  | nil => rfl
  | cons c gap ih =>
      have hRest := ih fun d hMem =>
        hGap d (List.mem_cons_of_mem _ hMem)
      rw [List.cons_append,
        words_cons_gap _ (hGap c List.mem_cons_self), hRest]

/- A text of word characters is a single word. -/
theorem words_of_forall
    {word : List Char}
    (hSome : word ≠ [])
    (hWord : ∀ c ∈ word, isWordChar c = true) :
    words word = [word] := by
  have hSplit : splitWhere (fun c => !isWordChar c) word =
      [word] := by
    apply splitWhere_of_forall
    intro c hMem
    simp [hWord c hMem]
  simp [words, hSplit, hSome]

/- A run of word characters up to a gap is the first word. -/
theorem words_append_word
    {word rest : List Char}
    (hSome : word ≠ [])
    (hWord : ∀ c ∈ word, isWordChar c = true)
    (hRest : ∀ c ∈ rest.head?, isWordChar c = false) :
    words (word ++ rest) = word :: words rest := by
  cases rest with
  | nil =>
      rw [List.append_nil, words_of_forall hSome hWord]
      rfl
  | cons c rest =>
      have hGap : isWordChar c = false := hRest c rfl
      rw [words_append_cons word rest hGap,
        words_of_forall hSome hWord, words_cons_gap rest hGap]
      rfl

end Text

end Blueprint

------------------------------------------------------------
-- Maximal Runs
------------------------------------------------------------

namespace Blueprint

namespace Text

/-
  A word of a text is a run of word characters that no word
  character comes before or after.
-/
def IsWordOf (text word : List Char) : Prop :=
  word ≠ [] ∧ (∀ c ∈ word, isWordChar c = true) ∧
    ∃ before after,
      text = before ++ word ++ after ∧
        (∀ c ∈ before.getLast?, isWordChar c = false) ∧
        ∀ c ∈ after.head?, isWordChar c = false

/- The words of a text are its maximal runs. -/
theorem mem_words_iff
    {text word : List Char} :
    word ∈ words text ↔ IsWordOf text word := by
  constructor
  · intro hMem
    have hPiece := (List.mem_filter.mp hMem).1
    have hSome := (List.mem_filter.mp hMem).2
    have hWord := all_isWordChar_of_mem_words hMem
    rcases exists_append_of_mem_splitWhere hPiece with
      ⟨before, after, hText, hBefore, hAfter⟩
    refine ⟨by simpa using hSome, by simpa using hWord,
      before, after, hText, ?_, ?_⟩
    · intro c hLast
      simpa using hBefore c hLast
    · intro c hHead
      simpa using hAfter c hHead
  · rintro ⟨hSome, hWord, before, after, rfl, hBefore,
      hAfter⟩
    have hFirst := words_append_word hSome hWord hAfter
    rw [List.append_assoc]
    rcases List.eq_nil_or_concat' before with
      rfl | ⟨start, c, rfl⟩
    · rw [List.nil_append, hFirst]
      exact List.mem_cons_self
    · have hGap : isWordChar c = false := by
        apply hBefore
        rw [List.getLast?_concat]
        rfl
      rw [List.append_assoc, List.singleton_append,
        words_append_cons _ _ hGap, hFirst]
      exact List.mem_append_right _ List.mem_cons_self

end Text

end Blueprint

------------------------------------------------------------
-- Blanks and Words
------------------------------------------------------------

namespace Blueprint

namespace Text

/- No listed letter or number is blank. -/
theorem alphanumericRanges_miss_blanks :
    blankRanges.all (fun (low, high) =>
      alphanumericRanges.all fun (first, last) =>
        Nat.blt last low || Nat.blt high first) = true := by
  decide +kernel

/- Blanks are gaps between words. -/
theorem isWordChar_of_isBlank
    {c : Char}
    (hBlank : isBlank c = true) :
    isWordChar c = false := by
  rcases (isBlank_iff c).mp hBlank with
    ⟨⟨low, high⟩, hRange, hLow, hHigh⟩
  by_cases hAscii : c.toNat < 128
  · have hAll : ∀ n < 128, isBlank (Char.ofNat n) = true →
        isWordChar (Char.ofNat n) = false := by
      decide
    have hChar := hAll c.toNat hAscii
    rw [Char.ofNat_toNat] at hChar
    exact hChar hBlank
  · have hUnderscore : c ≠ '_' := by
      rintro rfl
      exact hAscii (by decide)
    have hListed : inRanges alphanumericRanges c = false := by
      rw [inRanges, List.any_eq_false]
      rintro ⟨first, last⟩ hMem hIn
      have hMiss := List.all_eq_true.mp
        alphanumericRanges_miss_blanks _ hRange
      have hApart := List.all_eq_true.mp hMiss _ hMem
      simp only [Bool.and_eq_true, Bool.or_eq_true,
        decide_eq_true_eq, Nat.blt_eq] at hApart hIn
      omega
    rw [isWordChar, isAlphanumeric, if_neg hAscii, hListed]
    simpa using hUnderscore

end Text

end Blueprint

------------------------------------------------------------
-- Capitalized Words
------------------------------------------------------------

namespace Blueprint

namespace Text

/- The characters of identifiers are ASCII word characters. -/
theorem isWordChar_of_isIdentifierChar
    {c : Char}
    (h : isIdentifierChar c = true) :
    c.toNat < 128 ∧ isWordChar c = true := by
  have hAscii : c.toNat < 128 := by
    unfold isIdentifierChar Char.isAlphanum Char.isAlpha
      Char.isUpper Char.isLower Char.isDigit at h
    simp only [Bool.or_eq_true, Bool.and_eq_true,
      decide_eq_true_eq, beq_iff_eq, UInt32.le_iff_toNat_le,
      Char.toNat] at h ⊢
    rcases h with ((⟨_, h⟩ | ⟨_, h⟩) | ⟨_, h⟩) | rfl
    · exact Nat.lt_of_le_of_lt h (by decide)
    · exact Nat.lt_of_le_of_lt h (by decide)
    · exact Nat.lt_of_le_of_lt h (by decide)
    · decide
  refine ⟨hAscii, ?_⟩
  rw [isWordChar, isAlphanumeric, if_pos hAscii]
  exact h

/- An identifier is made of the characters of identifiers. -/
theorem forall_isIdentifierChar
    {text : List Char}
    (h : isIdentifier text = true) :
    ∀ c ∈ text, isIdentifierChar c = true := by
  cases text with
  | nil => simp
  | cons c rest =>
      simp only [isIdentifier, Bool.and_eq_true,
        List.all_eq_true] at h
      intro d hMem
      rcases List.mem_cons.mp hMem with rfl | hMem
      · have hStart := h.1
        simp only [isIdentifierStart, Bool.or_eq_true] at hStart
        simp only [isIdentifierChar, Char.isAlphanum,
          Bool.or_eq_true]
        tauto
      · exact h.2 d hMem

/- The letters beyond ASCII with an uppercase form in ASCII. -/
def asciiInUppercase : List Char :=
  ['ß', 'ı', 'ſ', 'ﬀ', 'ﬁ', 'ﬂ', 'ﬃ', 'ﬄ', 'ﬅ', 'ﬆ']

/- A long uppercase form within ASCII is that of a letter. -/
theorem uppercaseExpansions_ascii :
    uppercaseExpansions.all (fun (code, codes) =>
      codes.any (Nat.ble 128) ||
        asciiInUppercase.contains (Char.ofNat code)) =
          true := by
  decide +kernel

/- A shift into ASCII is that of a single letter. -/
theorem uppercaseShifts_ascii :
    uppercaseShifts.all (fun (first, last, _, offset) =>
      decide (128 ≤ first + offset) ||
        (first == last &&
          asciiInUppercase.contains (Char.ofNat first))) =
            true := by
  decide +kernel

/- No identifier has a character from beyond ASCII. -/
theorem toNat_lt_of_isIdentifierChar_ofNat
    {n : Nat}
    (h : isIdentifierChar (Char.ofNat n) = true) :
    n < 128 := by
  have hAscii := (isWordChar_of_isIdentifierChar h).1
  rcases toNat_ofNat_eq_or n with hSame | hZero
  · rwa [hSame] at hAscii
  · have hNull : Char.ofNat n = Char.ofNat 0 := by
      rw [← Char.ofNat_toNat (Char.ofNat n), hZero]
    rw [hNull] at h
    cases h

/- A long uppercase form in an identifier is a letter's. -/
theorem mem_asciiInUppercase_of_lookup
    {c : Char}
    {codes : List Nat}
    (h : uppercaseExpansions.lookup c.toNat = some codes)
    (hUpper : ∀ code ∈ codes,
      isIdentifierChar (Char.ofNat code) = true) :
    c ∈ asciiInUppercase := by
  rcases List.lookup_eq_some_iff.mp h with
    ⟨before, after, hTable, _⟩
  have hMem : (c.toNat, codes) ∈ uppercaseExpansions := by
    rw [hTable]
    exact List.mem_append_right _ List.mem_cons_self
  have hEntry := List.all_eq_true.mp
    uppercaseExpansions_ascii _ hMem
  rcases Bool.or_eq_true_iff.mp hEntry with hHigh | hLetter
  · rcases List.any_eq_true.mp hHigh with
      ⟨code, hCode, hLarge⟩
    have hSmall :=
      toNat_lt_of_isIdentifierChar_ofNat (hUpper code hCode)
    rw [Nat.ble_eq] at hLarge
    omega
  · rw [Char.ofNat_toNat] at hLetter
    exact List.contains_iff_mem.mp hLetter

/- A shifted uppercase form in an identifier is a letter's. -/
theorem mem_asciiInUppercase_of_shift?
    {c d : Char}
    (h : shift? uppercaseShifts c = some d)
    (hUpper : isIdentifierChar d = true) :
    c ∈ asciiInUppercase := by
  rcases List.exists_of_findSome?_eq_some h with
    ⟨⟨first, last, step, offset⟩, hMem, hShift⟩
  have hEntry := List.all_eq_true.mp
    uppercaseShifts_ascii _ hMem
  simp only [inRun, Bool.and_eq_true,
    decide_eq_true_eq] at hShift
  split at hShift
  · rename_i hRun
    cases hShift
    have hSmall := toNat_lt_of_isIdentifierChar_ofNat hUpper
    simp only [Bool.or_eq_true, decide_eq_true_eq,
      Bool.and_eq_true, beq_iff_eq] at hEntry
    rcases hEntry with hHigh | ⟨rfl, hLetter⟩
    · omega
    · have hSame : c.toNat = first := by omega
      rw [← hSame, Char.ofNat_toNat] at hLetter
      exact List.contains_iff_mem.mp hLetter
  · cases hShift

/-
  Beyond ASCII, only the listed letters become part of an
  identifier once they are in uppercase.
-/
theorem mem_asciiInUppercase_of_uppercaseChar
    {c : Char}
    (hBeyond : ¬ c.toNat < 128)
    (hUpper : ∀ d ∈ uppercaseChar c,
      isIdentifierChar d = true) :
    c ∈ asciiInUppercase := by
  rw [uppercaseChar, if_neg hBeyond] at hUpper
  cases hLong : uppercaseExpansions.lookup c.toNat with
  | some codes =>
      apply mem_asciiInUppercase_of_lookup hLong
      intro code hCode
      apply hUpper
      rw [hLong]
      exact List.mem_map_of_mem hCode
  | none =>
      simp only [hLong, List.mem_singleton,
        forall_eq] at hUpper
      cases hShift : shift? uppercaseShifts c with
      | some d =>
          rw [hShift] at hUpper
          exact mem_asciiInUppercase_of_shift? hShift hUpper
      | none =>
          rw [hShift] at hUpper
          exact absurd
            (isWordChar_of_isIdentifierChar hUpper).1
            hBeyond

/- What holds of the first 128 characters holds of ASCII. -/
theorem forall_ascii
    {p : Char → Prop}
    (hAll : ∀ n < 128, p (Char.ofNat n))
    {c : Char}
    (hAscii : c.toNat < 128) :
    p c := by
  have hChar := hAll c.toNat hAscii
  rwa [Char.ofNat_toNat] at hChar

/- The uppercase form of an ASCII character is ASCII too. -/
theorem uppercaseChar_of_ascii
    {c : Char}
    (hAscii : c.toNat < 128) :
    uppercaseChar c = [c.toUpper] := by
  rw [uppercaseChar, if_pos hAscii]

/-
  A character that is part of an identifier once it is in
  uppercase is a word character.
-/
theorem isWordChar_of_uppercaseChar
    {c : Char}
    (hUpper : ∀ d ∈ uppercaseChar c,
      isIdentifierChar d = true) :
    isWordChar c = true := by
  by_cases hAscii : c.toNat < 128
  · rw [uppercaseChar_of_ascii hAscii,
      List.forall_mem_singleton] at hUpper
    exact forall_ascii (p := fun d =>
      isIdentifierChar d.toUpper = true →
        isWordChar d = true) (by decide) hAscii hUpper
  · have hLetters :
        asciiInUppercase.all isWordChar = true := by
      decide +kernel
    exact List.all_eq_true.mp hLetters c
      (mem_asciiInUppercase_of_uppercaseChar hAscii hUpper)

/- A text that is an identifier once capitalized is a word. -/
theorem isWordChar_of_capitalize
    {text : List Char}
    (h : isIdentifier (capitalize text) = true) :
    text ≠ [] ∧ ∀ c ∈ text, isWordChar c = true := by
  cases text with
  | nil => simp [capitalize, isIdentifier] at h
  | cons c rest =>
      have hChars := forall_isIdentifierChar h
      rw [capitalize] at hChars
      refine ⟨List.cons_ne_nil _ _, ?_⟩
      intro d hMem
      rcases List.mem_cons.mp hMem with rfl | hMem
      · apply isWordChar_of_uppercaseChar
        intro e hUpper
        exact hChars e (List.mem_append_left _ hUpper)
      · have hIdentifier :=
          hChars d (List.mem_append_right _ hMem)
        exact (isWordChar_of_isIdentifierChar hIdentifier).2

end Text

end Blueprint
