import Blueprint.Proofs.Prose.Clause

/-
  Opposed clauses: two clauses exclude each other when they
  expect antonyms, or when one denies what the other one
  expects. The comparison of their values finds this out.

  Main definition:
    * `Clause.Opposes`

  Main statements:
    * `oppositePair?_eq_some_iff`
    * `Clause.oppositeValues?_expected_iff`
-/

------------------------------------------------------------
-- Pairs of Opposites
------------------------------------------------------------

namespace Blueprint

open Text

/-
  A table is searched for both orders of two words. A pair
  is found when the table has no other pair of its words.
-/
theorem oppositePair?_eq_some_iff
    {table : List (String × String)}
    (hSelf : ∀ q ∈ table,
      oppositePair? table q.1 q.2 = some q)
    {a b : String}
    {p : String × String} :
    oppositePair? table a b = some p ↔
      p ∈ table ∧
        (a = p.1 ∧ b = p.2 ∨ a = p.2 ∧ b = p.1) := by
  constructor
  · intro h
    have hFound := List.find?_some h
    simp only [Bool.or_eq_true, Bool.and_eq_true,
      beq_iff_eq] at hFound
    exact ⟨List.mem_of_find?_eq_some h, hFound⟩
  · rintro ⟨hMem, ⟨rfl, rfl⟩ | ⟨rfl, rfl⟩⟩
    · exact hSelf p hMem
    · rw [oppositePair?_comm]
      exact hSelf p hMem

theorem oppositePair?_antonyms_iff
    {a b : String}
    {p : String × String} :
    oppositePair? antonyms a b = some p ↔
      p ∈ antonyms ∧
        (a = p.1 ∧ b = p.2 ∨ a = p.2 ∧ b = p.1) :=
  oppositePair?_eq_some_iff (by decide)

theorem oppositePair?_contradictions_iff
    {a b : String}
    {p : String × String} :
    oppositePair? contradictions a b = some p ↔
      p ∈ contradictions ∧
        (a = p.1 ∧ b = p.2 ∨ a = p.2 ∧ b = p.1) :=
  oppositePair?_eq_some_iff (by decide)

/- No antonym is a denied value. -/
theorem oppositePair?_antonyms_not
    (value : List Char)
    (b : String) :
    oppositePair? antonyms
      (String.ofList ("not ".toList ++ value)) b = none := by
  have hPlain : ∀ q ∈ antonyms,
      ¬ "not ".toList <+: q.1.toList ∧
        ¬ "not ".toList <+: q.2.toList := by
    decide
  have hDenied : ∀ word : String,
      String.ofList ("not ".toList ++ value) = word →
        "not ".toList <+: word.toList := by
    rintro word rfl
    have hText :
        (String.ofList ("not ".toList ++ value)).toList =
          "not ".toList ++ value :=
      String.toList_ofList
    rw [hText]
    exact List.prefix_append _ _
  rw [Option.eq_none_iff_forall_ne_some]
  intro p hPair
  rcases oppositePair?_antonyms_iff.mp hPair with
    ⟨hMem, ⟨hFirst, _⟩ | ⟨hSecond, _⟩⟩
  · exact (hPlain p hMem).1 (hDenied _ hFirst)
  · exact (hPlain p hMem).2 (hDenied _ hSecond)

end Blueprint

------------------------------------------------------------
-- Denied Values
------------------------------------------------------------

namespace Blueprint

open Text

namespace Clause

variable {c d : Clause}

/- The shown value with a denial in front. -/
def denied (c : Clause) : List Char :=
  "not ".toList ++ c.shown

/- A denied value is trimmed. -/
theorem trim_denied (hC : c.WellFormed) :
    trim c.denied = c.denied := by
  have hNegate : negate c.shown = c.denied := by
    rw [negate, stripNegation?_shown hC]
    rfl
  rw [← hNegate]
  exact trim_negate (trim_shown c) hC.value

/- A denied value is the negation of the shown one. -/
theorem stripNegation?_denied (hC : c.WellFormed) :
    stripNegation? c.denied = some c.shown := by
  rw [stripNegation?_eq_some_iff]
  exact ⟨c.shown, (trim_shown c).symm,
    .inl (trim_denied hC)⟩

/- Two shown values do not negate each other. -/
theorem isNegationOf_shown_shown
    (hC : c.WellFormed)
    (hD : d.WellFormed) :
    isNegationOf (String.ofList c.shown)
      (String.ofList d.shown) = false := by
  unfold isNegationOf
  rw [String.toList_ofList, String.toList_ofList,
    stripNegation?_shown hC, stripNegation?_shown hD]
  rfl

/- A denied value negates the value that it denies. -/
theorem isNegationOf_shown_denied_iff
    (hC : c.WellFormed)
    (hD : d.WellFormed) :
    isNegationOf (String.ofList c.shown)
        (String.ofList d.denied) = true ↔
      c.shown = d.shown := by
  unfold isNegationOf
  rw [String.toList_ofList, String.toList_ofList,
    stripNegation?_shown hC, stripNegation?_denied hD,
    trim_shown, Bool.or_eq_true, beq_iff_eq, beq_iff_eq]
  constructor
  · rintro (hNone | hSome)
    · cases hNone
    · exact (Option.some.inj hSome).symm
  · intro hSame
    right
    rw [hSame]

/- Two denied values do not negate each other. -/
theorem isNegationOf_denied_denied
    (hC : c.WellFormed)
    (hD : d.WellFormed) :
    isNegationOf (String.ofList c.denied)
      (String.ofList d.denied) = false := by
  have hFirst : c.shown ≠ d.denied := by
    intro hSame
    apply hC.positive
    rw [hSame]
    exact List.prefix_append _ _
  have hSecond : d.shown ≠ c.denied := by
    intro hSame
    apply hD.positive
    rw [hSame]
    exact List.prefix_append _ _
  unfold isNegationOf
  rw [String.toList_ofList, String.toList_ofList,
    stripNegation?_denied hC, stripNegation?_denied hD,
    trim_denied hC, trim_denied hD]
  simp [hFirst, hSecond]

/- A denied value is longer than the shown one. -/
theorem utf8ByteSize_shown_lt_denied (c : Clause) :
    (String.ofList c.shown).utf8ByteSize <
      (String.ofList c.denied).utf8ByteSize := by
  have hSize :
      (String.ofList "not ".toList).utf8ByteSize = 4 :=
    rfl
  rw [denied, String.ofList_append,
    String.utf8ByteSize_append, hSize]
  omega

end Clause

end Blueprint

------------------------------------------------------------
-- Opposed Clauses
------------------------------------------------------------

namespace Blueprint

open Text

namespace Clause

variable {c d : Clause}

/-
  The two values that are shown for clauses that exclude
  each other: antonyms that both expect, in the order of the
  table, or a value and its denial.
-/
inductive Opposes
    (c d : Clause) : String × String → Prop
| antonyms
    {p : String × String}
    (pair : p ∈ Blueprint.antonyms)
    (expects : c.op.negates = false)
    (expectsToo : d.op.negates = false)
    (values :
      String.ofList c.shown = p.1 ∧
          String.ofList d.shown = p.2 ∨
        String.ofList c.shown = p.2 ∧
          String.ofList d.shown = p.1) :
    Opposes c d p
| denial
    (differ : c.op.negates ≠ d.op.negates)
    (same : c.shown = d.shown) :
    Opposes c d
      (String.ofList c.shown, String.ofList c.denied)

/- It does not matter which of two clauses comes first. -/
theorem Opposes.symm
    {p : String × String}
    (h : c.Opposes d p) :
    d.Opposes c p := by
  cases h with
  | antonyms pair expects expectsToo values =>
      refine .antonyms pair expectsToo expects ?_
      rcases values with ⟨hC, hD⟩ | ⟨hC, hD⟩
      · exact .inr ⟨hD, hC⟩
      · exact .inl ⟨hD, hC⟩
  | denial differ same =>
      rw [same, denied, same]
      exact .denial (Ne.symm differ) same.symm

/- A clause that denies nothing expects the shown value. -/
theorem expected_of_not_negates
    (hOp : c.op.negates = false) :
    c.expected = String.ofList c.shown := by
  rw [expected, hOp]
  rfl

/- A clause that denies a value expects the denied value. -/
theorem expected_of_negates
    (hOp : c.op.negates = true) :
    c.expected = String.ofList c.denied := by
  rw [expected, hOp]
  rfl

/- Without a negation, only antonyms are opposite. -/
theorem oppositeValues?_of_not_negation
    {x y : String}
    (h : isNegationOf x y = false) :
    oppositeValues? x y = oppositePair? antonyms x y := by
  unfold oppositeValues?
  rw [h]
  cases oppositePair? Blueprint.antonyms x y <;> rfl

/- A value and a denial are opposite for one value only. -/
theorem oppositeValues?_shown_denied_iff
    (hC : c.WellFormed)
    (hD : d.WellFormed)
    {p : String × String} :
    oppositeValues? (String.ofList c.shown)
        (String.ofList d.denied) = some p ↔
      c.shown = d.shown ∧
        p = (String.ofList c.shown,
          String.ofList c.denied) := by
  have hPair : oppositePair? Blueprint.antonyms
      (String.ofList c.shown)
      (String.ofList d.denied) = none := by
    rw [oppositePair?_comm]
    exact oppositePair?_antonyms_not d.shown _
  unfold oppositeValues?
  rw [hPair]
  by_cases hSame : c.shown = d.shown
  · have hNegation :=
      (isNegationOf_shown_denied_iff hC hD).mpr hSame
    have hDenied : d.denied = c.denied := by
      rw [denied, denied, hSame]
    have hSize := utf8ByteSize_shown_lt_denied c
    simp only [hNegation, if_true]
    rw [hDenied, if_pos (Nat.le_of_lt hSize),
      and_iff_right hSame, Option.some.injEq, eq_comm]
  · have hNegation : isNegationOf (String.ofList c.shown)
        (String.ofList d.denied) = false := by
      rw [← Bool.not_eq_true,
        isNegationOf_shown_denied_iff hC hD]
      exact hSame
    simp [hNegation, hSame]

/- The values of clauses are trimmed. -/
theorem trim_expected
    (hC : c.WellFormed) :
    trim c.expected.toList = c.expected.toList := by
  cases hOp : c.op.negates with
  | false =>
      rw [expected_of_not_negates hOp, String.toList_ofList]
      exact trim_shown c
  | true =>
      rw [expected_of_negates hOp, String.toList_ofList]
      exact trim_denied hC

/- Clauses that both expect exclude each other as antonyms. -/
theorem opposes_iff_of_not_negates
    (hFirst : c.op.negates = false)
    (hSecond : d.op.negates = false)
    {p : String × String} :
    c.Opposes d p ↔
      p ∈ Blueprint.antonyms ∧
        (String.ofList c.shown = p.1 ∧
            String.ofList d.shown = p.2 ∨
          String.ofList c.shown = p.2 ∧
            String.ofList d.shown = p.1) := by
  constructor
  · intro h
    cases h with
    | antonyms pair _ _ values => exact ⟨pair, values⟩
    | denial differ _ =>
        rw [hFirst, hSecond] at differ
        exact absurd rfl differ
  · rintro ⟨hMem, hValues⟩
    exact .antonyms hMem hFirst hSecond hValues

/- A clause and a denying one exclude each other by value. -/
theorem opposes_iff_of_negates_second
    (hFirst : c.op.negates = false)
    (hSecond : d.op.negates = true)
    {p : String × String} :
    c.Opposes d p ↔
      c.shown = d.shown ∧
        p = (String.ofList c.shown,
          String.ofList c.denied) := by
  constructor
  · intro h
    cases h with
    | antonyms _ _ expectsToo _ =>
        rw [hSecond] at expectsToo
        cases expectsToo
    | denial _ same => exact ⟨same, rfl⟩
  · rintro ⟨hSame, rfl⟩
    refine .denial ?_ hSame
    rw [hFirst, hSecond]
    decide

/- Two clauses that deny do not exclude each other. -/
theorem not_opposes_of_negates
    (hFirst : c.op.negates = true)
    (hSecond : d.op.negates = true)
    (p : String × String) :
    ¬ c.Opposes d p := by
  intro h
  cases h with
  | antonyms _ expects _ _ =>
      rw [hFirst] at expects
      cases expects
  | denial differ _ =>
      rw [hFirst, hSecond] at differ
      exact absurd rfl differ

/- The opposition of clauses that both expect is found. -/
theorem oppositeValues?_iff_of_not_negates
    (hC : c.WellFormed)
    (hD : d.WellFormed)
    (hFirst : c.op.negates = false)
    (hSecond : d.op.negates = false)
    {p : String × String} :
    oppositeValues? c.expected d.expected = some p ↔
      c.Opposes d p := by
  rw [opposes_iff_of_not_negates hFirst hSecond,
    expected_of_not_negates hFirst,
    expected_of_not_negates hSecond,
    oppositeValues?_of_not_negation
      (isNegationOf_shown_shown hC hD),
    oppositePair?_antonyms_iff]

/- The opposition of a clause and a denying one is found. -/
theorem oppositeValues?_iff_of_negates_second
    (hC : c.WellFormed)
    (hD : d.WellFormed)
    (hFirst : c.op.negates = false)
    (hSecond : d.op.negates = true)
    {p : String × String} :
    oppositeValues? c.expected d.expected = some p ↔
      c.Opposes d p := by
  rw [opposes_iff_of_negates_second hFirst hSecond,
    expected_of_not_negates hFirst,
    expected_of_negates hSecond,
    oppositeValues?_shown_denied_iff hC hD]

/- Nothing is found for two clauses that deny. -/
theorem oppositeValues?_eq_none_of_negates
    (hC : c.WellFormed)
    (hD : d.WellFormed)
    (hFirst : c.op.negates = true)
    (hSecond : d.op.negates = true) :
    oppositeValues? c.expected d.expected = none := by
  rw [expected_of_negates hFirst,
    expected_of_negates hSecond,
    oppositeValues?_of_not_negation
      (isNegationOf_denied_denied hC hD),
    denied, oppositePair?_antonyms_not]

/- The opposition is found in the values of two clauses. -/
theorem oppositeValues?_expected_iff
    (hC : c.WellFormed)
    (hD : d.WellFormed)
    {p : String × String} :
    oppositeValues? c.expected d.expected = some p ↔
      c.Opposes d p := by
  cases hFirst : c.op.negates with
  | false =>
      cases hSecond : d.op.negates with
      | false =>
          exact oppositeValues?_iff_of_not_negates
            hC hD hFirst hSecond
      | true =>
          exact oppositeValues?_iff_of_negates_second
            hC hD hFirst hSecond
  | true =>
      cases hSecond : d.op.negates with
      | false =>
          rw [oppositeValues?_comm (trim_expected hC)
              (trim_expected hD),
            oppositeValues?_iff_of_negates_second
              hD hC hSecond hFirst]
          exact ⟨Opposes.symm, Opposes.symm⟩
      | true =>
          rw [oppositeValues?_eq_none_of_negates
            hC hD hFirst hSecond]
          constructor
          · intro h
            cases h
          · intro h
            exact absurd h
              (not_opposes_of_negates hFirst hSecond p)

end Clause

end Blueprint
