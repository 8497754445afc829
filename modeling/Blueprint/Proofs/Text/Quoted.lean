import Blueprint.Proofs.Text.Blank
import Blueprint.Text.Quoted

/-
  Texts that can be written between double quotes, and how
  they are read back.

  Main definitions:
    * `IsEscaped`
    * `inQuotes`

  Main statements:
    * `IsEscaped.exists_eq_append`
    * `quotedBody?_append_cons`
    * `unquote?_inQuotes`
-/

------------------------------------------------------------
-- Escaped Texts
------------------------------------------------------------

namespace Blueprint

namespace Text

/-
  A text in which a backslash stands before every double
  quote, and no backslash is left without a character to
  escape.
-/
inductive IsEscaped : List Char → Prop
| nil : IsEscaped []
| escape
    {rest : List Char}
    (c : Char)
    (hRest : IsEscaped rest) :
    IsEscaped ('\\' :: c :: rest)
| plain
    {c : Char}
    {rest : List Char}
    (hQuote : c ≠ '"')
    (hBackslash : c ≠ '\\')
    (hRest : IsEscaped rest) :
    IsEscaped (c :: rest)

/- A text with neither quotes nor backslashes is escaped. -/
theorem isEscaped_of_not_mem
    {text : List Char}
    (hQuote : '"' ∉ text)
    (hBackslash : '\\' ∉ text) :
    IsEscaped text := by
  induction text with
  | nil => exact .nil
  | cons c text ih =>
      rw [List.mem_cons, not_or] at hQuote hBackslash
      exact .plain (Ne.symm hQuote.1) (Ne.symm hBackslash.1)
        (ih hQuote.2 hBackslash.2)

/- A quote in an escaped text comes after a backslash. -/
theorem IsEscaped.exists_eq_append
    {text before after : List Char}
    (hText : IsEscaped text)
    (hPlace : text = before ++ '"' :: after) :
    ∃ start, before = start ++ ['\\'] := by
  induction hText generalizing before with
  | nil =>
      cases before <;> cases hPlace
  | escape c _ ih =>
      rcases before with _ | ⟨first, _ | ⟨second, before⟩⟩
      · cases hPlace
      · cases hPlace
        exact ⟨[], rfl⟩
      · cases hPlace
        obtain ⟨start, hStart⟩ := ih rfl
        exact ⟨'\\' :: c :: start, by rw [hStart]; rfl⟩
  | @plain c rest hQuote _ _ ih =>
      cases before with
      | nil =>
          cases hPlace
          exact absurd rfl hQuote
      | cons first before =>
          cases hPlace
          obtain ⟨start, hStart⟩ := ih rfl
          exact ⟨c :: start, by rw [hStart]; rfl⟩

/- A text between double quotes. -/
def inQuotes (text : List Char) : List Char :=
  '"' :: text ++ ['"']

/- A text in quotes starts and ends with them. -/
theorem isSolid_inQuotes (text : List Char) :
    IsSolid (inQuotes text) :=
  isSolid_enclosed (by decide) (by decide) text

/- Quotes add only themselves to a text. -/
theorem not_mem_inQuotes
    {c : Char}
    {text : List Char}
    (hQuote : c ≠ '"')
    (hText : c ∉ text) :
    c ∉ inQuotes text := by
  simp [inQuotes, hQuote, hText]

end Text

end Blueprint

------------------------------------------------------------
-- Reading Quoted Text Back
------------------------------------------------------------

namespace Blueprint

namespace Text

/- An escaped text is read up to the quote that follows it. -/
theorem quotedBody?_append_cons
    {text : List Char}
    (rest : List Char)
    (hText : IsEscaped text) :
    quotedBody? (text ++ '"' :: rest) = some (text, rest) := by
  induction hText with
  | nil => rfl
  | escape c _ ih =>
      rw [List.cons_append, List.cons_append, quotedBody?,
        ih]
      rfl
  | @plain c text hQuote hBackslash _ ih =>
      rw [List.cons_append, quotedBody?, ih]
      · rfl
      · exact hQuote
      · intro d more hFirst _
        exact hBackslash hFirst
      · intro hFirst _
        exact hBackslash hFirst

/- What is read up to a quote is escaped. -/
theorem isEscaped_of_quotedBody?
    {text body after : List Char}
    (hBody : quotedBody? text = some (body, after)) :
    IsEscaped body := by
  fun_induction quotedBody? text generalizing body after with
  | case1 => cases hBody
  | case2 rest =>
      cases hBody
      exact .nil
  | case3 c rest ih =>
      obtain ⟨⟨inner, more⟩, hInner, hSame⟩ :=
        Option.map_eq_some_iff.mp hBody
      cases hSame
      exact .escape c (ih hInner)
  | case4 => cases hBody
  | case5 c rest hQuote hMore hLast ih =>
      obtain ⟨⟨inner, more⟩, hInner, hSame⟩ :=
        Option.map_eq_some_iff.mp hBody
      cases hSame
      have hBackslash : c ≠ '\\' := by
        rintro rfl
        cases rest with
        | nil => exact hLast rfl rfl
        | cons d rest => exact hMore d rest rfl rfl
      exact .plain hQuote hBackslash (ih hInner)

/- The escaped texts are those that can be read back. -/
theorem isEscaped_iff
    {text : List Char} :
    IsEscaped text ↔
      quotedBody? (text ++ ['"']) = some (text, []) :=
  ⟨quotedBody?_append_cons [], isEscaped_of_quotedBody?⟩

instance (text : List Char) : Decidable (IsEscaped text) :=
  decidable_of_iff _ isEscaped_iff.symm

/- A text in quotes is read with what follows it. -/
theorem quoted?_inQuotes
    {text : List Char}
    (rest : List Char)
    (hText : IsEscaped text) :
    quoted? (inQuotes text ++ rest) = some (text, rest) := by
  have hBody := quotedBody?_append_cons rest hText
  have hWhole : inQuotes text ++ rest =
      '"' :: (text ++ '"' :: rest) := by
    simp [inQuotes]
  rw [hWhole]
  exact hBody

/- What is read in quotes starts with one. -/
theorem quoted?_eq_some_iff
    {text : List Char}
    {found : List Char × List Char} :
    quoted? text = some found ↔
      ∃ rest, text = '"' :: rest ∧
        quotedBody? rest = some found := by
  constructor
  · intro hFound
    unfold quoted? at hFound
    split at hFound
    · exact ⟨_, rfl, hFound⟩
    · cases hFound
  · rintro ⟨rest, rfl, hBody⟩
    exact hBody

/- The quotes around a text are taken off. -/
theorem unquote?_inQuotes (text : List Char) :
    unquote? (inQuotes text) = some text := by
  have hTrim := (isSolid_inQuotes text).trim_eq
  unfold unquote?
  rw [hTrim]
  exact stripEnd_eq_some_iff.mpr rfl

/- Quotes are taken off a trimmed text that is in quotes. -/
theorem unquote?_eq_some_iff
    {text inner : List Char}
    (hText : trim text = text) :
    unquote? text = some inner ↔ text = inQuotes inner := by
  constructor
  · intro hInner
    unfold unquote? at hInner
    rw [hText] at hInner
    split at hInner
    · rename_i rest
      rw [stripEnd_eq_some_iff.mp hInner]
      rfl
    · cases hInner
  · rintro rfl
    exact unquote?_inQuotes inner

/- Different texts are different in quotes. -/
theorem inQuotes_injective
    {first second : List Char}
    (h : inQuotes first = inQuotes second) :
    first = second :=
  List.append_cancel_right (List.cons.inj h).2

/- A text in quotes is the text without them. -/
theorem unquoted_inQuotes (text : List Char) :
    unquoted (inQuotes text) = text := by
  rw [unquoted, unquote?_inQuotes]
  rfl

/- A text that does not start with a quote has none to take. -/
theorem unquote?_eq_none
    {text : List Char}
    (hText : IsSolid text)
    (hQuote : text.head? ≠ some '"') :
    unquote? text = none := by
  unfold unquote?
  rw [hText.trim_eq]
  split
  · exact absurd rfl hQuote
  · rfl

end Text

end Blueprint
