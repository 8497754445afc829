import Blueprint.Proofs.Prose.Clause
import Mathlib.Order.WellFounded

/-
  Quotations: comparisons of a word with a value in double
  quotes. The operators are looked for one after another in
  the whole condition, so that the quotes hide from the
  search only the operators that come later in its order.

  Main definitions:
    * `Denies`, `Operator.Means`, `Comparison.Says`
    * `Quotation`, `Quotation.WellFormed`
    * `Quotation.IsIntact`, `Quotation.BrokenAt`
    * `Quotation.IsRead`

  Main statements:
    * `Quotation.firstOperator?_of_isIntact`
    * `Quotation.firstOperator?_of_brokenAt`
    * `Quotation.isRead_of_wellFormed`
-/

------------------------------------------------------------
-- What Comparisons Say
------------------------------------------------------------

namespace Blueprint

open Text

/-
  The negation of a value: a negation in front of it is
  taken away, and otherwise one is put there.
-/
inductive Denies : List Char → List Char → Prop
| word
    (rest : List Char) :
    Denies ("not ".toList ++ rest) (trim rest)
| mark
    (rest : List Char) :
    Denies ('!' :: rest) (trim rest)
| plain
    {value : List Char}
    (hWord : ¬ "not ".toList <+: value)
    (hMark : ¬ ['!'] <+: value) :
    Denies value ("not ".toList ++ value)

/- A trimmed value is denied by its negation. -/
theorem denies_negate
    {value : List Char}
    (hValue : trim value = value) :
    Denies value (negate value) := by
  unfold negate
  cases hStrip : stripNegation? value with
  | some inner =>
      rcases stripNegation?_eq_some_iff.mp hStrip with
        ⟨rest, rfl, hWord | hMark⟩
      · rw [hValue] at hWord
        subst hWord
        exact .word rest
      · rw [hValue] at hMark
        subst hMark
        exact .mark rest
  | none =>
      have hNone : ∀ rest,
          ¬ (trim value = "not ".toList ++ rest ∨
            trim value = '!' :: rest) := by
        intro rest hMark
        have hSome := stripNegation?_eq_some_iff.mpr
          ⟨rest, rfl, hMark⟩
        rw [hStrip] at hSome
        cases hSome
      rw [hValue] at hNone
      apply Denies.plain
      · rintro ⟨rest, hWord⟩
        exact hNone rest (.inl hWord.symm)
      · rintro ⟨rest, hMark⟩
        exact hNone rest (.inr hMark.symm)

/-
  What a text stands for behind an operator: its letters in
  lowercase without the blanks around them, denied if the
  operator denies its value.
-/
def Operator.Means
    (op : Operator)
    (text shown : List Char) : Prop :=
  if op.negates then
    Denies (lowercase (trim text)) shown
  else
    shown = lowercase (trim text)

namespace Comparison

/- A comparison of a subject with a text by an operator. -/
structure Says
    (c : Comparison)
    (subject : List Char)
    (op : Operator)
    (text : List Char) : Prop where
  subject : c.subject = String.ofList subject
  value : op.Means text c.value.toList

variable {left right text : List Char}

/- Two sides with something in them make a comparison. -/
theorem exists_says_of_ofSides?
    (op : Operator)
    (hLeft : trim left ≠ [])
    (hRight : normalizeValue right = lowercase (trim text))
    (hText : trim text ≠ []) :
    ∃ c, ofSides? op left right = some c ∧
      c.Says (trim left) op text := by
  have hSome : lowercase (trim text) ≠ [] := by
    rwa [ne_eq, lowercase_eq_nil_iff]
  refine ⟨⟨String.ofList (trim left), String.ofList
    (if op.negates then negate (lowercase (trim text))
      else lowercase (trim text))⟩, ?_, rfl, ?_⟩
  · simp [ofSides?, hRight, hLeft, hSome]
  · rw [Operator.Means, String.toList_ofList]
    by_cases hNegates : op.negates = true
    · rw [if_pos hNegates, if_pos hNegates]
      exact denies_negate (trim_lowercase (trim_trim text))
    · rw [if_neg hNegates, if_neg hNegates]

/- A side without a value makes none. -/
theorem ofSides?_eq_none
    {op : Operator}
    (hRight : normalizeValue right = lowercase (trim text))
    (hText : trim text = []) :
    ofSides? op left right = none := by
  have hNil : normalizeValue right = [] := by
    rw [hRight, hText]
    rfl
  simp [ofSides?, hNil]

end Comparison

end Blueprint

------------------------------------------------------------
-- Quotations
------------------------------------------------------------

namespace Blueprint

open Text

/- A comparison of a word with a value in quotes. -/
structure Quotation where
  subject : List Char
  op : Operator
  value : List Char
deriving DecidableEq, Repr

namespace Quotation

/- The whole quotation. -/
def text (q : Quotation) : List Char :=
  q.subject ++ q.op.mark ++ inQuotes q.value

/-
  The subject is a word, and the value has letters but no
  quotes. It may have operators.
-/
structure WellFormed (q : Quotation) : Prop where
  subject : q.subject ≠ []
  word : ∀ x ∈ q.subject, isBlank x = false
  quote : '"' ∉ q.value
  value : trim q.value ≠ []

instance (q : Quotation) : Decidable q.WellFormed :=
  decidable_of_iff
    (q.subject ≠ [] ∧
      (q.subject.all fun x => !isBlank x) = true ∧
      '"' ∉ q.value ∧ trim q.value ≠ [])
    ⟨fun ⟨hSubject, hWord, hQuote, hValue⟩ =>
      ⟨hSubject, (Clause.all_not_isBlank_iff _).mp hWord,
        hQuote, hValue⟩,
    fun h =>
      ⟨h.subject, (Clause.all_not_isBlank_iff _).mpr h.word,
        h.quote, h.value⟩⟩

/-
  No operator that is looked for before the one of the
  quotation stands in the value.
-/
def IsIntact (q : Quotation) : Prop :=
  ∀ op : Operator,
    op.Precedes q.op → ¬ op.mark <:+: q.value

instance (q : Quotation) : Decidable q.IsIntact :=
  decidable_of_iff
    (∀ op ∈ Operator.all,
      op.Precedes q.op → ¬ op.mark <:+: q.value)
    (Clause.forall_mem_all_iff _)

/-
  The first operator of the search that stands in the value,
  between the parts of the value around its first place,
  comes before the operator of the quotation.
-/
structure BrokenAt
    (q : Quotation)
    (op : Operator)
    (before after : List Char) : Prop where
  precedes : op.Precedes q.op
  around : FirstAround op.mark q.value before after
  earliest : ∀ other : Operator,
    other.Precedes op → ¬ other.mark <:+: q.value

/- A quotation is broken unless it is intact. -/
theorem exists_brokenAt
    {q : Quotation}
    (hQ : ¬ q.IsIntact) :
    ∃ op before after, q.BrokenAt op before after := by
  have hSome : ∃ op : Operator,
      op.Precedes q.op ∧ op.mark <:+: q.value := by
    unfold IsIntact at hQ
    push Not at hQ
    exact hQ
  obtain ⟨op, ⟨hPrecedes, hInfix⟩, hLeast⟩ :=
    (measure fun op => Operator.all.idxOf op).wf.has_min
      { op | op.Precedes q.op ∧ op.mark <:+: q.value } hSome
  obtain ⟨before, after, hAround⟩ :=
    exists_firstAround op.mark_ne_nil hInfix
  refine ⟨op, before, after, hPrecedes, hAround, ?_⟩
  intro other hOther hMark
  exact hLeast other
    ⟨Nat.lt_trans hOther hPrecedes, hMark⟩ hOther

end Quotation

end Blueprint

------------------------------------------------------------
-- Operators in Quotations
------------------------------------------------------------

namespace Blueprint

open Text

namespace Quotation

variable {q : Quotation}

/- A quotation has no blanks around it. -/
theorem isSolid_text (hQ : q.WellFormed) :
    IsSolid q.text :=
  (isSolid_of_forall hQ.subject hQ.word).append
    (isSolid_inQuotes q.value) q.op.mark

/- There is no space in the subject. -/
theorem space_not_mem_subject (hQ : q.WellFormed) :
    ' ' ∉ q.subject := by
  intro hMem
  have hBlank := hQ.word ' ' hMem
  cases hBlank

/- The operator of a quotation is first met where it stands. -/
theorem cutAround_mark_text (hQ : q.WellFormed) :
    cutAround q.op.mark q.text =
      some (q.subject, inQuotes q.value) := by
  rw [text, List.append_assoc,
    cutAround_mark_append _ _ (space_not_mem_subject hQ),
    cutAround_append_self q.op.mark_ne_nil]
  simp

/-
  An operator that is looked for before the one of the
  quotation is met only in the value.
-/
theorem cutAround_mark_text_of_precedes
    {op : Operator}
    (hQ : q.WellFormed)
    (hOp : op.Precedes q.op) :
    cutAround op.mark q.text =
      (cutAround op.mark q.value).map
        fun (before, after) =>
          (q.subject ++ q.op.mark ++ '"' :: before,
            after ++ ['"']) := by
  have hQuote : '"' ∉ op.mark := by
    cases op <;> decide
  rw [text, List.append_assoc, inQuotes, List.cons_append,
    cutAround_mark_append _ _ (space_not_mem_subject hQ),
    cutAround_mark_quoted _ hOp,
    cutAround_append_singleton _ op.mark_ne_nil hQuote,
    Option.map_map, Option.map_map]
  congr 1
  funext p
  obtain ⟨before, after⟩ := p
  simp

/- An intact quotation is cut at its own operator. -/
theorem firstOperator?_of_isIntact
    (hQ : q.WellFormed)
    (hIntact : q.IsIntact) :
    Comparison.firstOperator? q.text =
      some (q.op, q.subject, inQuotes q.value) := by
  apply firstOperator?_eq_some (cutAround_mark_text hQ)
  intro other hOther
  rw [cutAround_mark_text_of_precedes hQ hOther,
    (cutAround_eq_none_iff other.mark_ne_nil).mpr
      (hIntact other hOther)]
  rfl

/- A broken one is cut inside of its quotes. -/
theorem firstOperator?_of_brokenAt
    {op : Operator}
    {before after : List Char}
    (hQ : q.WellFormed)
    (hBroken : q.BrokenAt op before after) :
    Comparison.firstOperator? q.text =
      some (op, q.subject ++ q.op.mark ++ '"' :: before,
        after ++ ['"']) := by
  apply firstOperator?_eq_some
  · rw [cutAround_mark_text_of_precedes hQ hBroken.precedes,
      (cutAround_eq_some_iff op.mark_ne_nil).mpr
        hBroken.around]
    rfl
  · intro other hOther
    rw [cutAround_mark_text_of_precedes hQ
        (Nat.lt_trans hOther hBroken.precedes),
      (cutAround_eq_none_iff other.mark_ne_nil).mpr
        (hBroken.earliest other hOther)]
    rfl

end Quotation

end Blueprint

------------------------------------------------------------
-- Reading Quotations
------------------------------------------------------------

namespace Blueprint

open Text

namespace Quotation

/- The comparison that a quotation is taken for. -/
def read (q : Quotation) : Option Comparison :=
  Comparison.ofText? (String.ofList q.text)

/-
  A quotation is read as it is meant if it is intact, and
  only then. Otherwise its own operator and a quote become
  part of the subject, and what stands behind the operator
  in the value is all that is left of it, if there is
  anything.
-/
structure IsRead (q : Quotation) : Prop where
  meant :
    (∃ c, q.read = some c ∧
      c.Says q.subject q.op q.value) ↔ q.IsIntact
  broken :
    ¬ q.IsIntact →
      ∃ op before after, q.BrokenAt op before after
  lost : ∀ op before after,
    q.BrokenAt op before after → trim after = [] →
      q.read = none
  misread : ∀ op before after,
    q.BrokenAt op before after → trim after ≠ [] →
      ∃ c, q.read = some c ∧
        c.Says
          (q.subject ++ q.op.mark ++ '"' :: trimEnd before)
          op after

variable {q : Quotation}

/- A quotation is read by its first operator. -/
theorem read_eq_ofSides?
    {op : Operator}
    {left right : List Char}
    (hQ : q.WellFormed)
    (hFirst : Comparison.firstOperator? q.text =
      some (op, left, right)) :
    q.read = Comparison.ofSides? op left right := by
  unfold read Comparison.ofText?
  rw [String.toList_ofList, (isSolid_text hQ).trim_eq]
  simp only [hFirst]

/- An intact quotation says what is meant. -/
theorem exists_says_of_isIntact
    (hQ : q.WellFormed)
    (hIntact : q.IsIntact) :
    ∃ c, q.read = some c ∧
      c.Says q.subject q.op q.value := by
  have hSubject : trim q.subject = q.subject :=
    trim_eq_self_of_forall hQ.word
  have hLeft : trim q.subject ≠ [] := by
    rw [hSubject]
    exact hQ.subject
  have hSays := Comparison.exists_says_of_ofSides? q.op hLeft
    (Comparison.normalizeValue_inQuotes hQ.quote) hQ.value
  rw [hSubject] at hSays
  rw [read_eq_ofSides? hQ
    (firstOperator?_of_isIntact hQ hIntact)]
  exact hSays

variable {op : Operator}
variable {before after : List Char}

/- The end of the value has no quotes. -/
theorem quote_not_mem_after
    (hQ : q.WellFormed)
    (hBroken : q.BrokenAt op before after) :
    '"' ∉ after := by
  intro hMem
  apply hQ.quote
  rw [hBroken.around.place]
  simp [hMem]

/- A broken quotation without an end says nothing. -/
theorem read_eq_none_of_brokenAt
    (hQ : q.WellFormed)
    (hBroken : q.BrokenAt op before after)
    (hAfter : trim after = []) :
    q.read = none := by
  rw [read_eq_ofSides? hQ
    (firstOperator?_of_brokenAt hQ hBroken)]
  exact Comparison.ofSides?_eq_none
    (Comparison.normalizeValue_append_quote
      (quote_not_mem_after hQ hBroken)) hAfter

/- A broken quotation says something of its own start. -/
theorem exists_says_of_brokenAt
    (hQ : q.WellFormed)
    (hBroken : q.BrokenAt op before after)
    (hAfter : trim after ≠ []) :
    ∃ c, q.read = some c ∧
      c.Says (q.subject ++ q.op.mark ++ '"' :: trimEnd before)
        op after := by
  have hTrim :
      trim (q.subject ++ q.op.mark ++ '"' :: before) =
        q.subject ++ q.op.mark ++ '"' :: trimEnd before := by
    obtain ⟨x, rest, hSubject⟩ :=
      List.exists_cons_of_ne_nil hQ.subject
    have hBlank : isBlank x = false := by
      apply hQ.word
      rw [hSubject]
      exact List.mem_cons_self
    rw [trim_append_cons _ _ (by decide), hSubject,
      List.cons_append, trimStart_cons hBlank]
  have hLeft :
      trim (q.subject ++ q.op.mark ++ '"' :: before) ≠
        [] := by
    rw [hTrim]
    simp
  have hSays := Comparison.exists_says_of_ofSides? op hLeft
    (Comparison.normalizeValue_append_quote
      (quote_not_mem_after hQ hBroken)) hAfter
  rw [hTrim] at hSays
  rw [read_eq_ofSides? hQ
    (firstOperator?_of_brokenAt hQ hBroken)]
  exact hSays

/- Quotations are read as meant exactly if they are intact. -/
theorem isRead_of_wellFormed
    {q : Quotation}
    (hQ : q.WellFormed) :
    q.IsRead where
  meant := by
    constructor
    · rintro ⟨c, hRead, hSays⟩
      by_contra hNot
      obtain ⟨op, before, after, hBroken⟩ :=
        exists_brokenAt hNot
      by_cases hAfter : trim after = []
      · rw [read_eq_none_of_brokenAt hQ hBroken hAfter]
          at hRead
        cases hRead
      · obtain ⟨d, hOther, hElse⟩ :=
          exists_says_of_brokenAt hQ hBroken hAfter
        rw [hRead] at hOther
        cases hOther
        -- The subject that is read is longer than the word.
        have hSubject := hSays.subject.symm.trans hElse.subject
        have hLength := congrArg List.length
          (String.ofList_injective hSubject)
        simp at hLength
    · exact exists_says_of_isIntact hQ
  broken := exists_brokenAt
  lost := fun _ _ _ => read_eq_none_of_brokenAt hQ
  misread := fun _ _ _ => exists_says_of_brokenAt hQ

/- A denied title, with later operators in its quotes. -/
def stateTitle : Quotation where
  subject := "Ticket.title".toList
  op := .notEqual
  value := " All == Done is fine ".toList

/- The later operators stay in the quotes. -/
theorem isRead_stateTitle :
    stateTitle.WellFormed ∧ stateTitle.IsIntact ∧
      ∃ c, stateTitle.read = some c ∧
        c.Says stateTitle.subject .notEqual stateTitle.value :=
  ⟨by decide, by decide,
    (isRead_of_wellFormed (by decide)).meant.mpr (by decide)⟩

/- A title with an earlier operator in its quotes. -/
def brokenTitle : Quotation where
  subject := "Ticket.title".toList
  op := .doubleEqual
  value := "what is not done".toList

/- The earlier operator does not stay in the quotes. -/
theorem not_says_brokenTitle :
    brokenTitle.WellFormed ∧
      brokenTitle.read =
        some ⟨"Ticket.title == \"what", "not done"⟩ ∧
      ¬ ∃ c, brokenTitle.read = some c ∧
        c.Says brokenTitle.subject brokenTitle.op
          brokenTitle.value := by
  have hRead : brokenTitle.read =
      some ⟨"Ticket.title == \"what", "not done"⟩ := by
    decide +kernel
  refine ⟨by decide, hRead, ?_⟩
  rintro ⟨c, hOther, hSays⟩
  rw [hRead] at hOther
  cases hOther
  have hSubject := hSays.subject
  revert hSubject
  decide

end Quotation

end Blueprint
