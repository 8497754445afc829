import Blueprint.Proofs.Text.Cut
import Blueprint.Prose.Comparison

/-
  Operators: none of them is taken for another one, and the
  one that follows a word is the first that is found, unless
  one that is looked for earlier stands in the value.

  Main definition:
    * `Operator.Precedes`

  Main statements:
    * `Operator.not_isPrefix_append`
    * `cutAround_mark_eq_none`
    * `firstOperator?_append`
    * `firstOperator?_eq_some`
    * `cutAround_mark_quoted`
-/

------------------------------------------------------------
-- Marks of Operators
------------------------------------------------------------

namespace Blueprint

open Text

/- The text of an operator between its spaces. -/
def Operator.core : Operator → List Char
| .isNot => "is not".toList
| .notEqual => "!=".toList
| .doubleEqual => "==".toList
| .is => "is".toList
| .equal => "=".toList

/- An operator stands between two spaces. -/
theorem Operator.mark_eq (op : Operator) :
    op.mark = ' ' :: op.core ++ [' '] := by
  cases op <;> rfl

/- Operators start with the space before them. -/
theorem Operator.mark_ne_nil (op : Operator) :
    op.mark ≠ [] := by
  rw [op.mark_eq]
  exact List.cons_ne_nil _ _

/- Only one operator is more than one word. -/
theorem Operator.space_not_mem_core
    {op : Operator}
    (hOp : op ≠ .isNot) :
    ' ' ∉ op.core := by
  cases op with
  | isNot => exact absurd rfl hOp
  | notEqual | doubleEqual | is | equal => decide

/- No operator starts with a shorter one, but one. -/
theorem Operator.eq_of_isPrefix
    {op other : Operator}
    (h : op.mark <+: other.mark) :
    other = op ∨ op = .is ∧ other = .isNot := by
  revert h
  cases op <;> cases other <;> decide

/-
  Different operators do not start alike, but for a negation
  that a value takes up.
-/
theorem Operator.not_isPrefix_append
    {op other : Operator}
    {after : List Char}
    (hOp : op ≠ .isNot)
    (hOther : other ≠ op)
    (hAfter : ¬ "not ".toList <+: after) :
    ¬ other.mark <+: op.mark ++ after := by
  intro hText
  have hSelf : op.mark <+: op.mark ++ after :=
    List.prefix_append _ _
  rcases List.prefix_or_prefix_of_prefix hText hSelf with
    hShorter | hLonger
  · rcases Operator.eq_of_isPrefix hShorter with
      hSame | ⟨_, hIsNot⟩
    · exact hOther hSame.symm
    · exact hOp hIsNot
  · rcases Operator.eq_of_isPrefix hLonger with
      hSame | ⟨rfl, rfl⟩
    · exact hOther hSame
    · have hMark : Operator.mark .isNot =
          Operator.mark .is ++ "not ".toList := rfl
      rw [hMark, List.prefix_append_right_inj] at hText
      exact hAfter hText

end Blueprint

------------------------------------------------------------
-- Operators after a Word
------------------------------------------------------------

namespace Blueprint

open Text

/-
  No other operator is found in an operator of one word and
  a value without operators.
-/
theorem cutAround_mark_eq_none
    {op other : Operator}
    {after : List Char}
    (hOp : op ≠ .isNot)
    (hOther : other ≠ op)
    (hAfter : ¬ "not ".toList <+: after)
    (hPlain : ¬ other.mark <:+: ' ' :: after) :
    cutAround other.mark (op.mark ++ after) = none := by
  have hValue : cutAround other.mark (' ' :: after) = none :=
    (cutAround_eq_none_iff other.mark_ne_nil).mpr hPlain
  have hTail : cutAround other.mark
      (op.core ++ ' ' :: after) = none := by
    have hSpace := Operator.space_not_mem_core hOp
    rw [other.mark_eq, List.cons_append] at hValue ⊢
    rw [cutAround_append_of_not_mem hSpace, hValue]
    rfl
  rw [cutAround_eq_none_iff other.mark_ne_nil] at hTail ⊢
  have hText : op.mark ++ after =
      ' ' :: (op.core ++ ' ' :: after) := by
    rw [op.mark_eq]
    simp
  have hStart :=
    Operator.not_isPrefix_append hOp hOther hAfter
  rw [hText] at hStart ⊢
  rw [List.infix_cons_iff]
  rintro (hHere | hLater)
  · exact hStart hHere
  · exact hTail hLater

/- No operator starts in a word without spaces. -/
theorem cutAround_mark_append
    {subject : List Char}
    (op : Operator)
    (text : List Char)
    (hSubject : ' ' ∉ subject) :
    cutAround op.mark (subject ++ text) =
      (cutAround op.mark text).map
        fun (before, after) => (subject ++ before, after) := by
  rw [op.mark_eq, List.cons_append]
  exact cutAround_append_of_not_mem hSubject

/-
  The operator after a word without spaces is the first one
  that is found.
-/
theorem firstOperator?_append
    {subject after : List Char}
    (op : Operator)
    (hSubject : ' ' ∉ subject)
    (hAfter : ¬ "not ".toList <+: after)
    (hPlain :
      ∀ other : Operator, ¬ other.mark <:+: ' ' :: after) :
    Comparison.firstOperator?
        (subject ++ (op.mark ++ after)) =
      some (op, subject, after) := by
  have hHere : cutAround op.mark
      (subject ++ (op.mark ++ after)) =
        some (subject, after) := by
    rw [cutAround_mark_append _ _ hSubject,
      cutAround_append_self op.mark_ne_nil]
    simp
  have hOther : op ≠ .isNot → ∀ other, other ≠ op →
      cutAround other.mark
        (subject ++ (op.mark ++ after)) = none := by
    intro hOp other hNe
    rw [cutAround_mark_append _ _ hSubject,
      cutAround_mark_eq_none hOp hNe hAfter (hPlain other)]
    rfl
  unfold Comparison.firstOperator? Operator.all
  cases op with
  | isNot => simp [hHere]
  | notEqual | doubleEqual | is | equal =>
      simp [hHere, hOther (by decide)]

end Blueprint

------------------------------------------------------------
-- The Order of the Search
------------------------------------------------------------

namespace Blueprint

open Text

/- An operator is looked for before another one. -/
def Operator.Precedes (op other : Operator) : Prop :=
  Operator.all.idxOf op < Operator.all.idxOf other

instance (op other : Operator) :
    Decidable (op.Precedes other) :=
  inferInstanceAs (Decidable (_ < _))

/- An operator is found if no earlier one is. -/
theorem firstOperator?_eq_some
    {op : Operator}
    {text : List Char}
    {parts : List Char × List Char}
    (hHere : cutAround op.mark text = some parts)
    (hEarlier : ∀ other : Operator, other.Precedes op →
      cutAround other.mark text = none) :
    Comparison.firstOperator? text = some (op, parts) := by
  have hOrder : ∃ before after,
      Operator.all = before ++ op :: after ∧
        ∀ other ∈ before, other.Precedes op := by
    refine ⟨Operator.all.takeWhile (· != op),
      (Operator.all.dropWhile (· != op)).tail, ?_, ?_⟩
    · cases op <;> rfl
    · cases op <;> decide
  obtain ⟨before, after, hAll, hBefore⟩ := hOrder
  unfold Comparison.firstOperator?
  rw [List.findSome?_eq_some_iff]
  refine ⟨before, op, after, hAll, ?_, ?_⟩
  · rw [hHere]
    rfl
  · intro other hMem
    rw [hEarlier other (hBefore other hMem)]
    rfl

/- Nothing is looked for before the operator of two words. -/
theorem Operator.Precedes.ne_isNot
    {op other : Operator}
    (h : op.Precedes other) :
    other ≠ .isNot := by
  rintro rfl
  exact Nat.not_lt_zero _ h

/-
  An operator that is looked for before the one in front of
  a quote is found only behind the quote.
-/
theorem cutAround_mark_quoted
    {op other : Operator}
    (text : List Char)
    (hOther : other.Precedes op) :
    cutAround other.mark (op.mark ++ '"' :: text) =
      (cutAround other.mark text).map
        fun (before, after) =>
          (op.mark ++ '"' :: before, after) := by
  have hOp := hOther.ne_isNot
  have hText : op.mark ++ '"' :: text =
      ' ' :: (op.core ++ ' ' :: ('"' :: text)) := by
    rw [op.mark_eq]
    simp
  have hNotHere : ¬ other.mark <+:
      ' ' :: (op.core ++ ' ' :: ('"' :: text)) := by
    rw [← hText]
    apply Operator.not_isPrefix_append hOp
    · rintro rfl
      exact Nat.lt_irrefl _ hOther
    · rintro ⟨_, hNot⟩
      cases hNot
  have hNotBehind : ¬ other.mark <+: ' ' :: '"' :: text := by
    rintro ⟨rest, hMark⟩
    cases other <;> cases hMark
  have hNotQuote : ¬ other.mark <+: '"' :: text := by
    rintro ⟨rest, hMark⟩
    cases other <;> cases hMark
  rw [hText, cutAround_cons_of_not_isPrefix hNotHere,
    cutAround_mark_append _ _
      (Operator.space_not_mem_core hOp),
    cutAround_cons_of_not_isPrefix hNotBehind,
    cutAround_cons_of_not_isPrefix hNotQuote,
    Option.map_map, Option.map_map, Option.map_map, op.mark_eq]
  congr 1
  funext ⟨before, after⟩
  simp

end Blueprint
