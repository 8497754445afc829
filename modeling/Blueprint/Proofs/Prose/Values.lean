import Blueprint.Proofs.Text.LetterCase
import Blueprint.Proofs.Text.Quoted
import Blueprint.Check.Conflict

/-
  The values of comparisons are trimmed, and so a value and
  its negation never have the same length: the shorter one
  is the positive one.

  Main statements:
    * `utf8ByteSize_lt_of_stripNegation?`
    * `normalizeValue_inQuotes`
    * `trim_value_of_ofText?`
    * `oppositeValues?_comm`
-/

------------------------------------------------------------
-- Negations
------------------------------------------------------------

namespace Blueprint

open Text

/- Stripping removes one of the two marks, and blanks. -/
theorem stripNegation?_eq_some_iff
    {text inner : List Char} :
    stripNegation? text = some inner ↔
      ∃ rest, inner = trim rest ∧
        (trim text = "not ".toList ++ rest ∨
          trim text = '!' :: rest) := by
  unfold stripNegation?
  constructor
  · intro h
    rcases Option.map_eq_some_iff.mp h with
      ⟨rest, hRest, rfl⟩
    refine ⟨rest, rfl, ?_⟩
    cases hNot : stripStart "not ".toList (trim text) with
    | some after =>
        rw [hNot] at hRest
        cases hRest
        exact .inl (stripStart_eq_some_iff.mp hNot)
    | none =>
        rw [hNot] at hRest
        exact .inr (stripStart_eq_some_iff.mp hRest)
  · rintro ⟨rest, rfl, hNot | hMark⟩
    · have hStrip := stripStart_eq_some_iff.mpr hNot
      simp only [hStrip]
      rfl
    · have hNone :
          stripStart "not ".toList (trim text) = none := by
        rw [hMark]
        rfl
      have hStrip : stripStart ['!'] (trim text) =
          some rest :=
        stripStart_eq_some_iff.mpr hMark
      simp only [hNone, hStrip]
      rfl

/- Trimming makes no text longer. -/
theorem utf8ByteSize_trim_le (text : List Char) :
    (String.ofList (trim text)).utf8ByteSize ≤
      (String.ofList text).utf8ByteSize := by
  rcases exists_eq_append_trim text with
    ⟨before, after, hText, _, _⟩
  conv_rhs => rw [hText]
  rw [String.ofList_append, String.ofList_append,
    String.utf8ByteSize_append, String.utf8ByteSize_append]
  omega

/- What is left of a negation is shorter than it. -/
theorem utf8ByteSize_lt_of_stripNegation?
    {text inner : List Char}
    (h : stripNegation? text = some inner) :
    (String.ofList inner).utf8ByteSize <
      (String.ofList text).utf8ByteSize := by
  rcases stripNegation?_eq_some_iff.mp h with
    ⟨rest, rfl, hMark⟩
  have hRest := utf8ByteSize_trim_le rest
  have hText := utf8ByteSize_trim_le text
  have hLonger : (String.ofList rest).utf8ByteSize <
      (String.ofList (trim text)).utf8ByteSize := by
    rcases hMark with hNot | hMark
    · have hSize :
          (String.ofList "not ".toList).utf8ByteSize = 4 :=
        rfl
      rw [hNot, String.ofList_append,
        String.utf8ByteSize_append, hSize]
      omega
    · have hSize :
          (String.ofList ['!']).utf8ByteSize = 1 :=
        rfl
      rw [hMark, ← List.singleton_append,
        String.ofList_append, String.utf8ByteSize_append,
        hSize]
      omega
  omega

/-
  Of two trimmed values that negate each other, one is
  shorter.
-/
theorem utf8ByteSize_ne_of_isNegationOf
    {x y : String}
    (hX : trim x.toList = x.toList)
    (hY : trim y.toList = y.toList)
    (h : isNegationOf x y = true) :
    x.utf8ByteSize ≠ y.utf8ByteSize := by
  unfold isNegationOf at h
  rw [hX, hY, Bool.or_eq_true, beq_iff_eq, beq_iff_eq] at h
  rcases h with hFirst | hSecond
  · have hLess := utf8ByteSize_lt_of_stripNegation? hFirst
    rw [String.ofList_toList, String.ofList_toList] at hLess
    omega
  · have hLess := utf8ByteSize_lt_of_stripNegation? hSecond
    rw [String.ofList_toList, String.ofList_toList] at hLess
    omega

/- The negation of a trimmed value is trimmed. -/
theorem trim_negate
    {value : List Char}
    (hValue : trim value = value)
    (hSome : value ≠ []) :
    trim (negate value) = negate value := by
  unfold negate
  cases hStrip : stripNegation? value with
  | some inner =>
      rcases stripNegation?_eq_some_iff.mp hStrip with
        ⟨rest, rfl, _⟩
      exact trim_trim rest
  | none =>
      rw [trim_eq_self_iff] at hValue ⊢
      constructor
      · intro c hHead
        cases hHead
        decide
      · intro c hLast
        apply hValue.2 c
        rwa [List.getLast?_append_of_ne_nil _ hSome] at hLast

end Blueprint

------------------------------------------------------------
-- Values of Comparisons
------------------------------------------------------------

namespace Blueprint

open Text

namespace Comparison

/- A normalized value is trimmed. -/
theorem trim_normalizeValue (text : List Char) :
    trim (normalizeValue text) = normalizeValue text :=
  trim_lowercase (trim_trim _)

variable {text : List Char}

/- The quote at the end of a value is not part of it. -/
theorem normalizeValue_append_quote
    (hText : '"' ∉ text) :
    normalizeValue (text ++ ['"']) =
      lowercase (trim text) := by
  have hTrim : trim (text ++ ['"']) =
      trimStart text ++ ['"'] :=
    trim_append_cons text [] (by decide)
  have hStart : '"' ∉ trimStart text := by
    intro hMem
    exact hText ((List.dropWhile_sublist _).subset hMem)
  unfold normalizeValue
  rw [hTrim, trimMatches_append_mark hStart, trim_trimStart]

/- The quotes around a value are not part of it. -/
theorem normalizeValue_inQuotes
    (hText : '"' ∉ text) :
    normalizeValue (inQuotes text) =
      lowercase (trim text) := by
  unfold normalizeValue
  rw [(isSolid_inQuotes text).trim_eq, inQuotes,
    trimMatches_enclosed hText]

/- The value of two sides of an operator is trimmed. -/
theorem trim_value_of_ofSides?
    {op : Operator}
    {left right : List Char}
    {c : Comparison}
    (h : ofSides? op left right = some c) :
    trim c.value.toList = c.value.toList := by
  simp only [ofSides?] at h
  split at h
  · cases h
  · rename_i hSome
    cases h
    have hValue : normalizeValue right ≠ [] := by
      intro hNil
      simp [hNil] at hSome
    rw [String.toList_ofList]
    split
    · exact trim_negate (trim_normalizeValue right) hValue
    · exact trim_normalizeValue right

/- The value of a comparison is trimmed. -/
theorem trim_value_of_ofText?
    {condition : String}
    {c : Comparison}
    (h : ofText? condition = some c) :
    trim c.value.toList = c.value.toList := by
  have hTrue :
      trim "true".toList = "true".toList := by decide
  have hFalse :
      trim "false".toList = "false".toList := by decide
  simp only [ofText?] at h
  split at h
  · exact trim_value_of_ofSides? h
  · simp only [ofBareText?] at h
    split at h
    · split at h
      · cases h
      · cases h
        exact hFalse
    · split at h
      · cases h
      · cases h
        exact hTrue

end Comparison

/- The values are shown in one order, whichever is first. -/
theorem oppositeValues?_comm
    {x y : String}
    (hX : trim x.toList = x.toList)
    (hY : trim y.toList = y.toList) :
    oppositeValues? x y = oppositeValues? y x := by
  unfold oppositeValues?
  rw [oppositePair?_comm, isNegationOf_comm x y]
  cases oppositePair? antonyms y x with
  | some pair => rfl
  | none =>
      by_cases hNegation : isNegationOf y x = true
      · have hSizes :=
          utf8ByteSize_ne_of_isNegationOf hY hX hNegation
        rw [if_pos hNegation, if_pos hNegation]
        by_cases hLess : x.utf8ByteSize ≤ y.utf8ByteSize
        · have hMore :
              ¬ y.utf8ByteSize ≤ x.utf8ByteSize := by
            omega
          rw [if_pos hLess, if_neg hMore]
        · have hMore :
              y.utf8ByteSize ≤ x.utf8ByteSize := by
            omega
          rw [if_neg hLess, if_pos hMore]
      · rw [if_neg hNegation, if_neg hNegation]

end Blueprint
