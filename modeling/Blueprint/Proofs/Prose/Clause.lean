import Blueprint.Proofs.Prose.Operator
import Blueprint.Proofs.Prose.Values

/-
  Clauses: conditions that compare a field of an entity with
  a value by one operator. They are read back as they are
  meant.

  Main definitions:
    * `Clause`, `Clause.WellFormed`
    * `Clause.shown`, `Clause.expected`

  Main statements:
    * `Clause.firstOperator?_trim_text`
    * `Clause.ofText?_text`
    * `Clause.conditionConstraint?_text`
-/

------------------------------------------------------------
-- Clauses
------------------------------------------------------------

namespace Blueprint

open Text

/-
  A comparison of `entity.field` with a value, which may
  stand in quotes.
-/
structure Clause where
  entity : List Char
  field : List Char
  op : Operator
  value : List Char
  quoted : Bool
deriving DecidableEq, Repr

namespace Clause

/- The field with its entity. -/
def subject (c : Clause) : List Char :=
  c.entity ++ '.' :: c.field

/- The value as it is written. -/
def written (c : Clause) : List Char :=
  if c.quoted then '"' :: c.value ++ ['"'] else c.value

/- The whole clause. -/
def text (c : Clause) : String :=
  String.ofList (c.subject ++ c.op.mark ++ c.written)

/- The value without blanks around it, in lowercase. -/
def shown (c : Clause) : List Char :=
  lowercase (trim c.value)

/- The value that the clause expects, denied or not. -/
def expected (c : Clause) : String :=
  String.ofList
    (if c.op.negates then "not ".toList ++ c.shown
      else c.shown)

/-
  The subject is a single word with an entity and a field,
  nothing in the value looks like an operator or a quote,
  and the value is neither empty nor a negation.
-/
structure WellFormed (c : Clause) : Prop where
  entity : c.entity ≠ []
  field : c.field ≠ []
  dot : '.' ∉ c.entity
  word : ∀ x ∈ c.subject, isBlank x = false
  quote : '"' ∉ c.value
  plain : ∀ op : Operator, ¬ op.mark <:+: ' ' :: c.written
  value : c.shown ≠ []
  positive : ¬ "not ".toList <+: c.shown
  unmarked : ¬ ['!'] <+: c.shown

/- The list of operators has all of them. -/
theorem forall_mem_all_iff (p : Operator → Prop) :
    (∀ op ∈ Operator.all, p op) ↔ ∀ op, p op := by
  constructor
  · intro h op
    apply h op
    cases op <;> decide
  · intro h op _
    exact h op

/- A subject is looked through character by character. -/
theorem all_not_isBlank_iff (word : List Char) :
    (word.all fun x => !isBlank x) = true ↔
      ∀ x ∈ word, isBlank x = false := by
  simp

instance (c : Clause) : Decidable c.WellFormed :=
  decidable_of_iff
    (c.entity ≠ [] ∧ c.field ≠ [] ∧ '.' ∉ c.entity ∧
      (c.subject.all fun x => !isBlank x) = true ∧
      '"' ∉ c.value ∧
      (∀ op ∈ Operator.all,
        ¬ op.mark <:+: ' ' :: c.written) ∧
      c.shown ≠ [] ∧ ¬ "not ".toList <+: c.shown ∧
      ¬ ['!'] <+: c.shown)
    ⟨fun ⟨hEntity, hField, hDot, hWord, hQuote, hPlain,
        hValue, hPositive, hUnmarked⟩ =>
      ⟨hEntity, hField, hDot,
        (all_not_isBlank_iff _).mp hWord, hQuote,
        (forall_mem_all_iff _).mp hPlain, hValue,
        hPositive, hUnmarked⟩,
    fun h =>
      ⟨h.entity, h.field, h.dot,
        (all_not_isBlank_iff _).mpr h.word, h.quote,
        (forall_mem_all_iff _).mpr h.plain, h.value,
        h.positive, h.unmarked⟩⟩

end Clause

end Blueprint

------------------------------------------------------------
-- Written Values
------------------------------------------------------------

namespace Blueprint

open Text

namespace Clause

variable {c : Clause}

/- The value of a clause has a letter. -/
theorem trim_value_ne_nil (hC : c.WellFormed) :
    trim c.value ≠ [] := by
  intro hNil
  apply hC.value
  rw [shown, hNil]
  rfl

/- So has the value as it is written. -/
theorem exists_not_blank_of_written (hC : c.WellFormed) :
    ∃ x ∈ c.written, isBlank x = false := by
  rcases exists_not_blank_of_trim_ne_nil
    (trim_value_ne_nil hC) with ⟨x, hMem, hBlank⟩
  refine ⟨x, ?_, hBlank⟩
  unfold written
  split
  · simp [hMem]
  · exact hMem

/- The value that is read is the value that is shown. -/
theorem normalizeValue_written (hC : c.WellFormed) :
    Comparison.normalizeValue c.written = c.shown := by
  unfold written shown
  cases c.quoted with
  | true =>
      rw [if_pos rfl]
      exact Comparison.normalizeValue_inQuotes hC.quote
  | false =>
      have hQuote : '"' ∉ trim c.value := by
        intro hMem
        exact hC.quote ((trim_isInfix c.value).subset hMem)
      unfold Comparison.normalizeValue
      rw [if_neg (by simp), trimMatches_of_not_mem hQuote,
        trim_trim]

/- A negation is one in lowercase as well. -/
theorem isPrefix_lowercase_not (rest : List Char) :
    "not ".toList <+: lowercase ("not ".toList ++ rest) :=
  ⟨lowercaseAfter "not ".toList.reverse rest, rfl⟩

/- The value as it is written does not negate. -/
theorem not_isPrefix_trimEnd_written (hC : c.WellFormed) :
    ¬ "not ".toList <+: trimEnd c.written := by
  rintro ⟨rest, hRest⟩
  have hPrefix : "not ".toList <+: c.written :=
    List.IsPrefix.trans ⟨rest, hRest⟩
      (trimEnd_isPrefix c.written)
  cases hQuoted : c.quoted with
  | true =>
      rw [written, hQuoted, if_pos rfl] at hPrefix
      rcases hPrefix with ⟨_, hText⟩
      cases hText
  | false =>
      have hValue : c.written = c.value := by
        rw [written, hQuoted, if_neg (by simp)]
      have hTrim : trim c.value = trimEnd c.value := by
        rw [hValue] at hPrefix
        rcases hPrefix with ⟨after, hText⟩
        rw [← hText]
        rfl
      apply hC.positive
      rw [shown, hTrim, ← hValue, ← hRest]
      exact isPrefix_lowercase_not rest

end Clause

end Blueprint

------------------------------------------------------------
-- Reading Clauses
------------------------------------------------------------

namespace Blueprint

open Text

namespace Clause

variable {c : Clause}

/- Only the end of a clause may have blanks to trim. -/
theorem trim_text (hC : c.WellFormed) :
    trim c.text.toList =
      c.subject ++ (c.op.mark ++ trimEnd c.written) := by
  have hLetter : ∃ x rest, c.subject = x :: rest := by
    unfold subject
    cases hEntity : c.entity with
    | nil => exact absurd hEntity hC.entity
    | cons x rest => exact ⟨x, rest ++ '.' :: c.field, rfl⟩
  rcases hLetter with ⟨x, rest, hSubject⟩
  have hBlank : isBlank x = false := by
    apply hC.word
    rw [hSubject]
    exact List.mem_cons_self
  rw [text, String.toList_ofList, trim, hSubject,
    List.cons_append, List.cons_append,
    trimStart_cons hBlank, ← List.cons_append,
    ← List.cons_append,
    trimEnd_append_of_not_blank _
      (exists_not_blank_of_written hC),
    List.append_assoc]

/- The operator of a clause is found after its subject. -/
theorem firstOperator?_trim_text (hC : c.WellFormed) :
    Comparison.firstOperator? (trim c.text.toList) =
      some (c.op, c.subject, trimEnd c.written) := by
  rw [trim_text hC]
  apply firstOperator?_append
  · intro hMem
    have hBlank := hC.word ' ' hMem
    cases hBlank
  · exact not_isPrefix_trimEnd_written hC
  · intro other hInfix
    apply hC.plain other
    rcases trimEnd_isPrefix c.written with ⟨after, hText⟩
    rw [← hText, ← List.cons_append]
    exact hInfix.trans (List.infix_append [] _ after)

/- The shown value is trimmed. -/
theorem trim_shown (c : Clause) : trim c.shown = c.shown :=
  trim_lowercase (trim_trim _)

/- The shown value is no negation. -/
theorem stripNegation?_shown (hC : c.WellFormed) :
    stripNegation? c.shown = none := by
  rw [Option.eq_none_iff_forall_ne_some]
  intro inner hStrip
  rcases stripNegation?_eq_some_iff.mp hStrip with
    ⟨rest, _, hNot | hMark⟩
  · rw [trim_shown] at hNot
    exact hC.positive ⟨rest, hNot.symm⟩
  · rw [trim_shown] at hMark
    exact hC.unmarked ⟨rest, hMark.symm⟩

/- A clause is read as it is meant. -/
theorem ofText?_text (hC : c.WellFormed) :
    Comparison.ofText? c.text =
      some ⟨String.ofList c.subject, c.expected⟩ := by
  have hSubject : trim c.subject = c.subject :=
    trim_eq_self_of_forall hC.word
  have hSome : c.subject ≠ [] := by
    unfold subject
    exact List.append_ne_nil_of_right_ne_nil _
      (List.cons_ne_nil _ _)
  have hValue : Comparison.normalizeValue
      (trimEnd c.written) = c.shown := by
    rw [← normalizeValue_written hC]
    unfold Comparison.normalizeValue
    rw [trim_trimEnd]
  unfold Comparison.ofText?
  simp only [firstOperator?_trim_text hC]
  unfold Comparison.ofSides?
  simp only [hSubject, hValue]
  rw [if_neg (by simp [hSome, hC.value]), expected, negate,
    stripNegation?_shown hC]

/- The subject of a clause refers to its entity and field. -/
theorem ofText_subject
    (hC : c.WellFormed)
    (names : List String) :
    Reference.ofText names (String.ofList c.subject) =
      ⟨some (capitalized c.entity),
        some (String.ofList c.field)⟩ := by
  have hEntity : trim c.entity = c.entity := by
    apply trim_eq_self_of_forall
    intro x hMem
    apply hC.word
    simp [subject, hMem]
  have hField : trim c.field = c.field := by
    apply trim_eq_self_of_forall
    intro x hMem
    apply hC.word
    simp [subject, hMem]
  have hDot : ∀ x ∈ c.entity, (x == '.') = false := by
    intro x hMem
    rw [beq_eq_false_iff_ne]
    rintro rfl
    exact hC.dot hMem
  have hCut : cutAt (· == '.') c.subject =
      some (c.entity, c.field) :=
    cutAt_append_cons hDot (by simp)
  unfold Reference.ofText
  rw [String.toList_ofList, trim_eq_self_of_forall hC.word]
  simp only [hCut, hEntity, hField]
  rw [if_neg (by simp [hC.field])]

/- What a rule with a clause as its condition demands. -/
theorem conditionConstraint?_text
    (hC : c.WellFormed)
    (names : List String)
    (index : Nat)
    {r : Rule}
    (hR : r.condition = some (.plain c.text)) :
    conditionConstraint? names index r =
      some {
        kind := .fieldValue
        entity := some (capitalized c.entity)
        field := some (String.ofList c.field)
        condition := some c.expected
        action := none
        ruleIndex := index } := by
  unfold conditionConstraint? conditionDemand?
    conditionSubject
  simp only [hR, ofText?_text hC, comparisonSubject,
    ofText_subject hC, Option.map_some]

end Clause

end Blueprint
