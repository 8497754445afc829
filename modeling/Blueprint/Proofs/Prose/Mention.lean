import Blueprint.Proofs.Text.Words
import Blueprint.Prose.Reference

/-
  Mentions of names in free text. A text mentions a name by
  any of its words, but only the first word that belongs to
  some entity is followed up. For names that are
  identifiers, a reference by `entity.field` is a mention of
  that kind as well.

  Main definitions:
    * `Names`, `Mentions`
    * `MentionsFirst`

  Main statements:
    * `mentionedEntity?_eq_some_iff`
    * `MentionsFirst.mentions`
    * `mentionsFirst_of_reference`
-/

------------------------------------------------------------
-- Mentions
------------------------------------------------------------

namespace Blueprint

open Text

/- The word is the name, as it stands or once capitalized. -/
def Names
    (n : String)
    (word : List Char) : Prop :=
  String.ofList word = n ∨ capitalized word = n

/- Some word of the text is the name. -/
def Mentions (n text : String) : Prop :=
  ∃ word, IsWordOf text.toList word ∧ Names n word

/-
  Of the words that are the name of an entity once they are
  capitalized, the first one gives the name.
-/
def MentionsFirst
    (names : List String)
    (n text : String) : Prop :=
  ∃ before word after,
    words text.toList = before ++ word :: after ∧
      capitalized word = n ∧
      ∀ earlier ∈ before, capitalized earlier ∉ names

/- The mentioned entity is the one of the first such word. -/
theorem mentionedEntity?_eq_some_iff
    {names : List String}
    {n text : String}
    (hName : n ∈ names) :
    mentionedEntity? names text = some n ↔
      MentionsFirst names n text := by
  unfold mentionedEntity? MentionsFirst
  rw [List.findSome?_eq_some_iff]
  constructor
  · rintro ⟨before, word, after, hText, hWord, hBefore⟩
    refine ⟨before, word, after, hText, ?_, ?_⟩
    · split at hWord
      · cases hWord
        rfl
      · cases hWord
    · intro earlier hMem hListed
      have hNone := hBefore earlier hMem
      rw [if_pos (by simpa using hListed)] at hNone
      cases hNone
  · rintro ⟨before, word, after, hText, rfl, hBefore⟩
    refine ⟨before, word, after, hText, ?_, ?_⟩
    · rw [if_pos (by simpa using hName)]
    · intro earlier hMem
      rw [if_neg (by simpa using hBefore earlier hMem)]

/- A mentioned entity is a name that is mentioned first. -/
theorem mentionedEntity?_eq_some_iff_mem
    {names : List String}
    {n text : String} :
    mentionedEntity? names text = some n ↔
      n ∈ names ∧ MentionsFirst names n text := by
  constructor
  · intro h
    have hName := mem_of_mentionedEntity? h
    exact ⟨hName, (mentionedEntity?_eq_some_iff hName).mp h⟩
  · rintro ⟨hName, hMentions⟩
    exact (mentionedEntity?_eq_some_iff hName).mpr hMentions

/- No entity is mentioned when no word gives a name. -/
theorem mentionedEntity?_eq_none_iff
    {names : List String}
    {text : String} :
    mentionedEntity? names text = none ↔
      ∀ word ∈ words text.toList,
        capitalized word ∉ names := by
  unfold mentionedEntity?
  rw [List.findSome?_eq_none_iff]
  simp

/- A first mention is a mention. -/
theorem MentionsFirst.mentions
    {names : List String}
    {n text : String}
    (h : MentionsFirst names n text) :
    Mentions n text := by
  rcases h with ⟨before, word, after, hText, hName, _⟩
  refine ⟨word, mem_words_iff.mp ?_, .inr hName⟩
  rw [hText]
  exact List.mem_append_right _ List.mem_cons_self

end Blueprint

------------------------------------------------------------
-- References
------------------------------------------------------------

namespace Blueprint

open Text

/-
  A word that stands alone up to a gap is the first one, so
  that it is a first mention of the name that it gives.
-/
theorem mentionsFirst_of_start
    {names : List String}
    {n text : String}
    {blanks word rest : List Char}
    (hIdentifier : isIdentifier n.toList = true)
    (hText : text.toList = blanks ++ (word ++ rest))
    (hBlanks : ∀ c ∈ blanks, isBlank c = true)
    (hRest : ∀ c ∈ rest.head?, isWordChar c = false)
    (hWord : capitalized word = n) :
    MentionsFirst names n text := by
  have hCapital : isIdentifier (capitalize word) = true := by
    rw [← hWord, capitalized, String.toList_ofList]
      at hIdentifier
    exact hIdentifier
  rcases isWordChar_of_capitalize hCapital with
    ⟨hSome, hChars⟩
  have hGap : ∀ c ∈ blanks, isWordChar c = false := by
    intro c hMem
    exact isWordChar_of_isBlank (hBlanks c hMem)
  refine ⟨[], word, words rest, ?_, hWord, by simp⟩
  rw [hText, words_append_gap _ hGap,
    words_append_word hSome hChars hRest]
  rfl

/- Blanks after a word keep it from going on. -/
theorem isWordChar_head?_of_blanks
    {blanks rest : List Char}
    (hBlanks : ∀ c ∈ blanks, isBlank c = true)
    (hRest : ∀ c ∈ rest.head?, isWordChar c = false) :
    ∀ c ∈ (blanks ++ rest).head?, isWordChar c = false := by
  cases blanks with
  | nil => exact hRest
  | cons d blanks =>
      intro c hHead
      cases hHead
      exact isWordChar_of_isBlank
        (hBlanks _ List.mem_cons_self)

/-
  What a text seems to refer to is a first mention, when the
  name of the entity is an identifier: the text then starts
  with a word, up to a blank, a dot or its end.
-/
theorem mentionsFirst_of_reference
    {names : List String}
    {n text : String}
    (hIdentifier : isIdentifier n.toList = true)
    (h : (Reference.ofText names text).entity = some n) :
    MentionsFirst names n text := by
  rcases exists_eq_append_trim text.toList with
    ⟨start, stop, hText, hStart, hStop⟩
  have hEnd : ∀ c ∈ stop.head?, isWordChar c = false := by
    intro c hHead
    exact isWordChar_of_isBlank
      (hStop c (List.mem_of_mem_head? hHead))
  unfold Reference.ofText at h
  cases hCut : cutAt (· == '.') (trim text.toList) with
  | none =>
      simp only [hCut, Reference.ofWord] at h
      split at h
      · rw [List.append_assoc] at hText
        exact mentionsFirst_of_start hIdentifier hText
          hStart hEnd (Option.some.inj h)
      · split at h
        · cases h
        · cases h
  | some parts =>
      rcases parts with ⟨entity, field⟩
      simp only [hCut] at h
      rcases eq_append_of_cutAt hCut with
        ⟨c, hDot, hSubject, _⟩
      have hGap : isWordChar c = false := by
        rw [beq_iff_eq] at hDot
        subst hDot
        decide
      rcases exists_eq_append_trim entity with
        ⟨left, right, hEntity, hLeft, hRight⟩
      have hBlanks : ∀ d ∈ start ++ left,
          isBlank d = true := by
        intro d hMem
        rcases List.mem_append.mp hMem with hMem | hMem
        · exact hStart d hMem
        · exact hLeft d hMem
      have hNext : ∀ d ∈ (c :: field ++ stop).head?,
          isWordChar d = false := by
        intro d hHead
        cases hHead
        exact hGap
      have hWhole : text.toList = (start ++ left) ++
          (trim entity ++ (right ++ (c :: field ++ stop))) := by
        conv_lhs => rw [hText, hSubject, hEntity]
        simp
      exact mentionsFirst_of_start hIdentifier hWhole
        hBlanks (isWordChar_head?_of_blanks hRight hNext)
        (Option.some.inj h)

end Blueprint
