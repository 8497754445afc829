import Blueprint.Text.Blank
import Blueprint.Text.Digit

/-
  Integers are read back from the decimal digits that they
  are printed with.

  Main statements:
    * `readNat?_of_forall`, `readUInt32?_of_forall`
    * `readNat?_toDigits`
    * `toList_toString_cases`
    * `readInt64?_toString`
-/

------------------------------------------------------------
-- Natural Numbers
------------------------------------------------------------

namespace Blueprint

namespace Text

/- The ASCII digits are in one run. -/
theorem toNat_of_isDigit
    {c : Char}
    (hDigit : c.isDigit = true) :
    48 ≤ c.toNat ∧ c.toNat ≤ 57 := by
  rw [Char.isDigit, Bool.and_eq_true, decide_eq_true_eq,
    decide_eq_true_eq] at hDigit
  exact hDigit

/- They are digits of some script. -/
theorem isDecimalDigit_of_isDigit
    {c : Char}
    (hDigit : c.isDigit = true) :
    isDecimalDigit c = true := by
  have hRun := toNat_of_isDigit hDigit
  rw [isDecimalDigit, if_pos (by omega), hDigit]

/- They are not blank. -/
theorem isBlank_of_isDigit
    {c : Char}
    (hDigit : c.isDigit = true) :
    isBlank c = false := by
  have hRun := toNat_of_isDigit hDigit
  simp only [isBlank, Bool.or_eq_false_iff,
    Bool.and_eq_false_iff, decide_eq_false_iff_not,
    beq_eq_false_iff_ne]
  omega

variable {digits : List Char}

/- Digits write a number, with any zeros in front. -/
theorem readNat?_of_forall
    (hSome : digits ≠ [])
    (hDigits : ∀ c ∈ digits, c.isDigit = true) :
    readNat? digits = some (digitsValue digits) := by
  unfold readNat?
  rw [List.isEmpty_eq_false_iff.mpr hSome,
    List.all_eq_true.mpr hDigits]
  rfl

/- A number that fits in 32 bits is read as such. -/
theorem readUInt32?_of_forall
    (hSome : digits ≠ [])
    (hDigits : ∀ c ∈ digits, c.isDigit = true)
    (hBound : digitsValue digits < UInt32.size) :
    readUInt32? digits =
      some (UInt32.ofNat (digitsValue digits)) := by
  unfold readUInt32?
  rw [readNat?_of_forall hSome hDigits]
  exact if_pos hBound

/- The decimal digits of a number are read back. -/
theorem readNat?_toDigits (n : Nat) :
    readNat? (Nat.toDigits 10 n) = some n := by
  have hDigits : ∀ c ∈ Nat.toDigits 10 n,
      c.isDigit = true := by
    intro c hMem
    exact Nat.isDigit_of_mem_toDigits (by omega) (by omega)
      hMem
  have hValue : digitsValue (Nat.toDigits 10 n) = n :=
    Nat.ofDigitChars_toDigits (by omega) (by omega)
  rw [readNat?_of_forall Nat.toDigits_ne_nil hDigits, hValue]

end Text

end Blueprint

------------------------------------------------------------
-- Integers
------------------------------------------------------------

namespace Blueprint

namespace Text

/- Digits are no signs. -/
theorem readInt?_of_readNat?
    {digits : List Char}
    {n : Nat}
    (hDigits : readNat? digits = some n) :
    readInt? digits = some (n : Int) := by
  unfold readInt?
  split
  · simp [readNat?, Char.isDigit] at hDigits
  · simp [readNat?, Char.isDigit] at hDigits
  · rw [hDigits]
    rfl

/-
  An integer is printed as digits, after a minus sign when
  it is negative.
-/
theorem toList_toString_cases (n : Int) :
    (∃ k : Nat, n = k ∧
        (toString n).toList = Nat.toDigits 10 k) ∨
      ∃ k : Nat, n = -k ∧
        (toString n).toList = '-' :: Nat.toDigits 10 k := by
  cases n with
  | ofNat k => exact .inl ⟨k, rfl, Nat.toList_repr⟩
  | negSucc k =>
      refine .inr ⟨k + 1, rfl, ?_⟩
      simp [toString, Int.repr]

/- An integer is printed in digits and minus signs. -/
theorem forall_mem_toString (n : Int) :
    ∀ c ∈ (toString n).toList,
      c.isDigit = true ∨ c = '-' := by
  have hDigits : ∀ k : Nat, ∀ c ∈ Nat.toDigits 10 k,
      c.isDigit = true := by
    intro k c hMem
    exact Nat.isDigit_of_mem_toDigits (by omega) (by omega)
      hMem
  intro c hMem
  rcases toList_toString_cases n with
    ⟨k, _, hText⟩ | ⟨k, _, hText⟩
  · rw [hText] at hMem
    exact .inl (hDigits k c hMem)
  · rw [hText] at hMem
    rcases List.mem_cons.mp hMem with rfl | hMem
    · exact .inr rfl
    · exact .inl (hDigits k c hMem)

/- An integer is read back from how it is printed. -/
theorem readInt?_toString (n : Int) :
    readInt? (toString n).toList = some n := by
  rcases toList_toString_cases n with
    ⟨k, hValue, hText⟩ | ⟨k, hValue, hText⟩
  · rw [hText, hValue]
    exact readInt?_of_readNat? (readNat?_toDigits k)
  · rw [hText, readInt?, readNat?_toDigits, hValue]
    rfl

/- An integer of 64 bits is read back from its text. -/
theorem readInt64?_toString (n : Int64) :
    readInt64? (toString n.toInt).toList = some n := by
  have hRange : Int64.minValue.toInt ≤ n.toInt ∧
      n.toInt ≤ Int64.maxValue.toInt :=
    ⟨n.minValue_le_toInt, n.toInt_le⟩
  unfold readInt64?
  rw [readInt?_toString]
  dsimp only [Option.bind_eq_bind, Option.bind_some]
  rw [if_pos hRange, Int64.ofInt_toInt]

end Text

end Blueprint
