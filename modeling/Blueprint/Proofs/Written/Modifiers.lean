import Blueprint.Field.Modifiers
import Blueprint.Proofs.Text.Digit
import Blueprint.Proofs.Written.Type

/-
  How the modifiers of fields are written, and that they are
  read back.

  Main definitions:
    * `Modifier.text`, `Modifier.IsWritable`
    * `Modifiers.list`

  Main statements:
    * `Modifier.ofItem_text`
    * `Modifiers.foldl_set_list`
    * `Modifiers.ofText_list`
-/

------------------------------------------------------------
-- Written Modifiers
------------------------------------------------------------

namespace Blueprint

open Text

namespace Modifier

/- A value that is assigned to a key. -/
def assignment
    (key : String)
    (value : List Char) : List Char :=
  key.toList ++ '=' :: value

/- A modifier as it is written. -/
def text : Modifier → List Char
| .required => "required".toList
| .unique => "unique".toList
| .min bound =>
    assignment "min" (toString bound.toInt).toList
| .max bound =>
    assignment "max" (toString bound.toInt).toList
| .pattern text =>
    assignment "pattern" (inQuotes text.toList)
| .default text =>
    assignment "default" (inQuotes text.toList)

/- The texts of modifiers are those that quotes can hold. -/
def IsWritable : Modifier → Prop
| .pattern text => IsQuotable text.toList
| .default text => IsQuotable text.toList
| _ => True

end Modifier

namespace Modifiers

/- What the record demands, one modifier after the other. -/
def list (ms : Modifiers) : List Modifier :=
  (if ms.required then [.required] else []) ++
    (if ms.unique then [.unique] else []) ++
    (ms.min.map Modifier.min).toList ++
    (ms.max.map Modifier.max).toList ++
    (ms.pattern.map Modifier.pattern).toList ++
    (ms.default.map Modifier.default).toList

/- The modifiers that a record lists amount to the record. -/
theorem foldl_set_list (ms : Modifiers) :
    ms.list.foldl set {} = ms := by
  rcases ms with
    ⟨required, unique, min, max, pattern, default⟩
  unfold list
  cases required <;> cases unique <;> cases min <;>
    cases max <;> cases pattern <;> cases default <;> rfl

end Modifiers

end Blueprint

------------------------------------------------------------
-- Layout of Modifiers
------------------------------------------------------------

namespace Blueprint

open Text

/- A printed integer has no blank, comma or bracket. -/
theorem isSolid_toString (n : Int) :
    IsSolid (toString n).toList := by
  have hSome : (toString n).toList ≠ [] := by
    rcases toList_toString_cases n with
      ⟨k, _, hText⟩ | ⟨k, _, hText⟩
    · rw [hText]
      exact Nat.toDigits_ne_nil
    · rw [hText]
      exact List.cons_ne_nil _ _
  apply isSolid_of_forall hSome
  intro c hMem
  rcases forall_mem_toString n c hMem with hDigit | rfl
  · apply isBlank_of_isIdentifierChar
    simp [isIdentifierChar, Char.isAlphanum, hDigit]
  · decide

/- A printed integer is scanned at the top level. -/
theorem scans_toString (n : Int) :
    Scans ',' (.plain 0) (toString n).toList (.plain 0) := by
  apply scans_plain
  · intro c hMem
    rcases forall_mem_toString n c hMem with hDigit | rfl
    · apply isPlain_of_isIdentifierChar
      simp [isIdentifierChar, Char.isAlphanum, hDigit]
    · simp [IsPlain]
  · intro _ hMem
    rcases forall_mem_toString n ',' hMem with hDigit | hSign
    · exact absurd hDigit (by decide)
    · exact absurd hSign (by decide)

/- A printed integer is on one line. -/
theorem not_mem_toString (n : Int) :
    '\n' ∉ (toString n).toList := by
  intro hMem
  rcases forall_mem_toString n '\n' hMem with hDigit | hSign
  · exact absurd hDigit (by decide)
  · exact absurd hSign (by decide)

namespace Modifier

/- An assignment starts with its key and ends as its value. -/
theorem isSolid_assignment
    {key : String}
    {value : List Char}
    (hKey : isIdentifier key.toList = true)
    (hValue : IsSolid value) :
    IsSolid (assignment key value) := by
  have hSolid :=
    (isSolid_of_isIdentifier hKey).append hValue ['=']
  rwa [List.append_assoc] at hSolid

/- An assignment is scanned when its value is. -/
theorem scans_assignment
    {key : String}
    {value : List Char}
    (hKey : isIdentifier key.toList = true)
    (hValue : Scans ',' (.plain 0) value (.plain 0)) :
    Scans ',' .outermost (assignment key value)
      .outermost := by
  have hWord : Scans ',' (.plain 0) key.toList (.plain 0) :=
    scans_identifier 0 hKey (by decide)
  have hEquals : Scans ',' (.plain 0) ['='] (.plain 0) :=
    scans_plain 0 (by simp [IsPlain]) (by simp)
  exact hWord.append (hEquals.append hValue)

/- An assignment is on one line when its value is. -/
theorem not_mem_assignment
    {key : String}
    {value : List Char}
    (hKey : isIdentifier key.toList = true)
    (hValue : '\n' ∉ value) :
    '\n' ∉ assignment key value := by
  have hWord : '\n' ∉ key.toList :=
    not_mem_of_isIdentifier hKey (by decide)
  simp [assignment, hWord, hValue]

/- A written modifier is solid. -/
theorem isSolid_text (m : Modifier) : IsSolid m.text := by
  cases m with
  | required =>
      have hWord : isIdentifier "required".toList = true := by
        decide
      exact isSolid_of_isIdentifier hWord
  | unique =>
      have hWord : isIdentifier "unique".toList = true := by
        decide
      exact isSolid_of_isIdentifier hWord
  | min bound | max bound =>
      exact isSolid_assignment (by decide)
        (isSolid_toString _)
  | pattern text | default text =>
      exact isSolid_assignment (by decide)
        (isSolid_inQuotes _)

/- A written modifier has no comma outside its quotes. -/
theorem scans_text
    {m : Modifier}
    (hWritable : m.IsWritable) :
    Scans ',' .outermost m.text .outermost := by
  cases m with
  | required =>
      have hWord : isIdentifier "required".toList = true := by
        decide
      exact scans_identifier 0 hWord (by decide)
  | unique =>
      have hWord : isIdentifier "unique".toList = true := by
        decide
      exact scans_identifier 0 hWord (by decide)
  | min bound | max bound =>
      exact scans_assignment (by decide) (scans_toString _)
  | pattern text | default text =>
      exact scans_assignment (by decide)
        (scans_inQuotes 0 (by decide) hWritable.1)

/- A written modifier is on one line. -/
theorem not_mem_text
    {m : Modifier}
    (hWritable : m.IsWritable) :
    '\n' ∉ m.text := by
  cases m with
  | required =>
      show '\n' ∉ "required".toList
      decide
  | unique =>
      show '\n' ∉ "unique".toList
      decide
  | min bound | max bound =>
      exact not_mem_assignment (by decide)
        (not_mem_toString _)
  | pattern text | default text =>
      exact not_mem_assignment (by decide)
        (not_mem_inQuotes (by decide) hWritable.2)

end Modifier

end Blueprint

------------------------------------------------------------
-- Reading Modifiers Back
------------------------------------------------------------

namespace Blueprint

open Text

variable (field : String)

namespace Modifier

/- The key and the value of an assignment are read back. -/
theorem ofItem_assignment
    {key : String}
    {value : List Char}
    (hKey : isIdentifier key.toList = true)
    (hValue : IsSolid value) :
    ofItem field (assignment key value) =
      ofAssignment field key.toList value := by
  have hCut : cutAt (· == '=') (assignment key value) =
      some (key.toList, value) :=
    cutAt_identifier_append value hKey (by decide)
  have hTrim := (isSolid_of_isIdentifier hKey).trim_eq
  rw [ofItem, hCut]
  dsimp only
  rw [hTrim, hValue.trim_eq]

/- A bound is read back. -/
theorem readBound_toString
    (key : String)
    (bound : Int64) :
    readBound field key (toString bound.toInt).toList =
      .ok bound := by
  rw [readBound, readInt64?_toString]

/- A text is read back from its quotes. -/
theorem ofList_unquoted_inQuotes (text : String) :
    String.ofList (unquoted (inQuotes text.toList)) =
      text := by
  rw [unquoted_inQuotes, String.ofList_toList]

/- A written modifier is read back. -/
theorem ofItem_text (m : Modifier) :
    ofItem field m.text = .ok m := by
  cases m with
  | required => rfl
  | unique => rfl
  | min bound =>
      have hRead : ofAssignment field "min".toList
          (toString bound.toInt).toList =
            (readBound field "min"
              (toString bound.toInt).toList).map .min :=
        rfl
      rw [readBound_toString] at hRead
      exact (ofItem_assignment field (by decide)
        (isSolid_toString _)).trans hRead
  | max bound =>
      have hRead : ofAssignment field "max".toList
          (toString bound.toInt).toList =
            (readBound field "max"
              (toString bound.toInt).toList).map .max :=
        rfl
      rw [readBound_toString] at hRead
      exact (ofItem_assignment field (by decide)
        (isSolid_toString _)).trans hRead
  | pattern text =>
      have hRead : ofAssignment field "pattern".toList
          (inQuotes text.toList) =
            .ok (.pattern (String.ofList
              (unquoted (inQuotes text.toList)))) :=
        rfl
      rw [ofList_unquoted_inQuotes] at hRead
      exact (ofItem_assignment field (by decide)
        (isSolid_inQuotes _)).trans hRead
  | default text =>
      have hRead : ofAssignment field "default".toList
          (inQuotes text.toList) =
            .ok (.default (String.ofList
              (unquoted (inQuotes text.toList)))) :=
        rfl
      rw [ofList_unquoted_inQuotes] at hRead
      exact (ofItem_assignment field (by decide)
        (isSolid_inQuotes _)).trans hRead

end Modifier

namespace Modifiers

/- Written modifiers are read back one by one. -/
theorem mapM_ofItem_text (list : List Modifier) :
    (list.map Modifier.text).mapM (Modifier.ofItem field) =
      .ok list := by
  induction list with
  | nil => rfl
  | cons m list ih =>
      rw [List.map_cons, List.mapM_cons, Modifier.ofItem_text,
        ih]
      rfl

/- The modifiers that a record lists are read back. -/
theorem ofText_list
    {ms : Modifiers}
    (hWritable : ∀ m ∈ ms.list, m.IsWritable) :
    ofText field
        (joinWith [',', ' '] (ms.list.map Modifier.text)) =
      .ok ms := by
  have hItems : topLevelItems (joinWith [',', ' ']
      (ms.list.map Modifier.text)) =
        ms.list.map Modifier.text := by
    apply topLevelItems_joinWith
    · intro item hMem
      rcases List.mem_map.mp hMem with ⟨m, _, rfl⟩
      exact m.isSolid_text
    · intro item hMem
      rcases List.mem_map.mp hMem with ⟨m, hIn, rfl⟩
      exact Modifier.scans_text (hWritable m hIn)
  rw [ofText, hItems, mapM_ofItem_text]
  exact congrArg Except.ok (foldl_set_list ms)

end Modifiers

end Blueprint
