import Blueprint.Proofs.Reading.Bodies
import Blueprint.Proofs.Sound.Part
import Blueprint.Proofs.Written.OpenCall

/-
  Fields that were read: their names and the entities that
  they refer to are identifiers, no value to choose from is
  empty, and expressions are trimmed. All texts of a field
  are parts of its line.

  Main definitions:
    * `FieldType.strings`, `Field.strings`, `Entity.strings`
    * `FieldType.IsSound`, `Field.IsSound`
    * `FieldType.ReadFrom`

  Main statements:
    * `FieldType.readFrom_ofText`
    * `Field.isSound_of_ofLine`, `Field.subset_of_ofLine`
    * `Entity.isPartOf_of_ofBlock`
-/

------------------------------------------------------------
-- Types
------------------------------------------------------------

namespace Blueprint

open Text

namespace FieldType

/- The texts that a type holds. -/
def strings : FieldType → List String
| .scalar _ => []
| .enum values => values
| .relationship entity => [entity]
| .list entity => [entity]
| .ai prompt => [prompt]
| .computed expression => [expression]
| .unrecognized raw => [raw]

/- What holds of a type that was read. -/
structure IsSound (type : FieldType) : Prop where
  target : ∀ entity, type.target? = some entity →
    isIdentifier entity.toList = true
  values : ∀ values, type = .enum values → "" ∉ values
  expression : ∀ expression, type = .computed expression →
    trim expression.toList = expression.toList

/- What a text is read as, form by form. -/
inductive ReadFrom (text : List Char) : FieldType → Prop
| scalar
    (s : Scalar) :
    ReadFrom text (.scalar s)
| enum
    {inner : List Char}
    (part : inner ⊆ text) :
    ReadFrom text (.enum (listItems inner))
| relationship
    {name : List Char}
    (hName : isIdentifier name = true)
    (part : name ⊆ text) :
    ReadFrom text (.relationship (String.ofList name))
| list
    {name : List Char}
    (hName : isIdentifier name = true)
    (part : name ⊆ text) :
    ReadFrom text (.list (String.ofList name))
| ai
    {prompt : List Char}
    (part : prompt ⊆ text) :
    ReadFrom text (.ai (String.ofList prompt))
| computed
    {inner : List Char}
    (part : inner ⊆ text) :
    ReadFrom text (.computed (String.ofList (trim inner)))
| unrecognized :
    ReadFrom text (.unrecognized (String.ofList text))

variable {text : List Char}
variable {type : FieldType}

theorem promptText_subset (text : List Char) :
    promptText text ⊆ text := by
  unfold promptText
  split
  · rename_i prompt hSole
    rcases Option.bind_eq_some_iff.mp hSole with
      ⟨rest, hStart, hQuoted⟩
    unfold soleQuoted? at hQuoted
    split at hQuoted
    · cases hQuoted
    · rename_i hBody
      split at hQuoted
      · cases hQuoted
        exact List.Subset.trans (subset_of_quoted? hBody).1
          (List.Subset.trans (trimStart_subset rest)
            (subset_of_stripStart hStart))
      · cases hQuoted
  · have hInner := List.Subset.trans
      (dropEndWhile_subset (· == ')') (dropAiOpenings text))
      (dropAiOpenings_isSuffix text).subset
    exact List.Subset.trans (trim_subset _)
      (List.Subset.trans (trimMatches_subset _ _)
        (List.Subset.trans (trim_subset _) hInner))

theorem readFrom_of_readListOf?
    (h : readListOf? text = some type) :
    ReadFrom text type := by
  rcases Option.bind_eq_some_iff.mp h with
    ⟨afterList, hList, h⟩
  rcases Option.bind_eq_some_iff.mp h with
    ⟨ofEntity, hBlank, h⟩
  rcases Option.bind_eq_some_iff.mp h with
    ⟨afterOf, hOf, h⟩
  rcases Option.bind_eq_some_iff.mp h with
    ⟨name, hName, h⟩
  split at h
  · rename_i hIdentifier
    cases h
    have hEntity := List.Subset.trans
      (subset_of_skipBlanks? hBlank)
      (subset_of_stripStart hList)
    exact .list hIdentifier
      (List.Subset.trans (subset_of_skipBlanks? hName)
        (List.Subset.trans (subset_of_stripStart hOf)
          hEntity))
  · cases h

theorem readFrom_of_readRelationship?
    (h : readRelationship? text = some type) :
    ReadFrom text type := by
  unfold readRelationship? at h
  dsimp only at h
  split at h
  · cases h
  · split at h
    · rename_i hBoth
      rw [Bool.and_eq_true] at hBoth
      cases h
      exact .relationship hBoth.1
        (List.takeWhile_sublist _).subset
    · cases h

/- A text is read as one of the forms, or kept as it is. -/
theorem readFrom_ofText (text : List Char) :
    ReadFrom text (ofText text) := by
  have hFound : ∀ type,
      (readScalar? text <|> readEnum? text <|> readAi? text
        <|> readComputed? text <|> readRelationship? text
        <|> readListOf? text) = some type →
          ReadFrom text type := by
    intro type hRead
    simp only [Option.orElse_eq_orElse, Option.orElse_eq_or,
      Option.or_eq_some_iff] at hRead
    rcases hRead with hScalar | ⟨_, hEnum | ⟨_, hAi |
      ⟨_, hComputed | ⟨_, hRelationship | ⟨_, hList⟩⟩⟩⟩⟩
    · rcases Option.map_eq_some_iff.mp hScalar with
        ⟨s, _, rfl⟩
      exact .scalar s
    · rcases Option.map_eq_some_iff.mp hEnum with
        ⟨inner, hInner, rfl⟩
      exact .enum (subset_of_enclosed? hInner)
    · rcases Option.map_eq_some_iff.mp hAi with ⟨_, _, rfl⟩
      exact .ai (promptText_subset text)
    · rcases Option.map_eq_some_iff.mp hComputed with
        ⟨inner, hInner, rfl⟩
      exact .computed (subset_of_enclosed? hInner)
    · exact readFrom_of_readRelationship? hRelationship
    · exact readFrom_of_readListOf? hList
  unfold ofText
  dsimp only
  cases hRead : (readScalar? text <|> readEnum? text <|>
      readAi? text <|> readComputed? text <|>
        readRelationship? text <|> readListOf? text) with
  | none => exact .unrecognized
  | some type => exact hFound type hRead

theorem ReadFrom.isSound
    (h : ReadFrom text type) :
    type.IsSound := by
  constructor
  case target =>
      intro entity hTarget
      cases h with
      | relationship hName _ | list hName _ =>
          cases hTarget
          rwa [String.toList_ofList]
      | _ => cases hTarget
  case values =>
      intro values hEnum
      cases h with
      | enum _ =>
          cases hEnum
          exact empty_not_mem_listItems _
      | _ => cases hEnum
  case expression =>
      intro expression hComputed
      cases h with
      | computed _ =>
          cases hComputed
          rw [String.toList_ofList, trim_trim]
      | _ => cases hComputed

theorem ReadFrom.subset
    (h : ReadFrom text type) :
    ∀ s ∈ type.strings, s.toList ⊆ text := by
  cases h with
  | scalar s => exact List.forall_mem_nil _
  | enum hPart =>
      intro s hMem
      exact List.Subset.trans (subset_of_mem_listItems hMem)
        hPart
  | relationship _ hPart | list _ hPart | ai hPart =>
      rw [strings, List.forall_mem_singleton,
        String.toList_ofList]
      exact hPart
  | computed hPart =>
      rw [strings, List.forall_mem_singleton,
        String.toList_ofList]
      exact List.Subset.trans (trim_subset _) hPart
  | unrecognized =>
      rw [strings, List.forall_mem_singleton,
        String.toList_ofList]
      exact List.Subset.refl text

end FieldType

end Blueprint

------------------------------------------------------------
-- Fields
------------------------------------------------------------

namespace Blueprint

open Text

variable {file : String}
variable {line : Line}

/- The texts that a modifier holds. -/
def Modifier.strings : Modifier → List String
| .pattern text => [text]
| .default text => [text]
| .required | .unique | .min _ | .max _ => []

/- The texts that the modifiers of a field hold. -/
def Modifiers.strings (ms : Modifiers) : List String :=
  ms.pattern.toList ++ ms.default.toList

theorem Modifier.subset_of_ofItem
    {field : String}
    {item : List Char}
    {m : Modifier}
    (h : ofItem field item = .ok m) :
    ∀ s ∈ m.strings, s.toList ⊆ item := by
  unfold ofItem at h
  split at h
  · unfold ofWord at h
    split at h
    case h_1 | h_2 =>
        cases h
        exact List.forall_mem_nil _
    case h_3 | h_4 => cases h
  · rename_i word value hCut
    have hValue := List.Subset.trans
      (unquoted_subset (trim value))
      (List.Subset.trans (trim_subset value)
        (subset_of_cutAt hCut).2)
    unfold ofAssignment at h
    split at h
    case h_1 | h_2 =>
        rcases Declaration.exists_of_map_eq_ok h with
          ⟨_, _, rfl⟩
        exact List.forall_mem_nil _
    case h_3 | h_4 =>
        cases h
        rw [strings, List.forall_mem_singleton,
          String.toList_ofList]
        exact hValue
    case h_5 => cases h

theorem subset_of_mem_modifierItems
    {text item : List Char}
    (h : item ∈ modifierItems text) :
    item ⊆ text := by
  unfold modifierItems at h
  split at h
  · cases h
  · rename_i hColon
    split at h
    · cases h
    · rename_i hComma
      have hModifiers := List.Subset.trans
        (subset_of_cutTopLevel hComma).2
        (List.Subset.trans (trim_subset _)
          (subset_of_cutAt hColon).2)
      exact List.Subset.trans (subset_of_mem_topLevelItems h)
        (List.Subset.trans (trim_subset _) hModifiers)

/- A modifier of a field is one that its line writes. -/
theorem Field.subset_of_mem_modifiers
    {f : Field}
    (h : ofLine file line = .ok f) :
    ∀ s ∈ f.modifiers.strings, s.toList ⊆ line.text := by
  rcases exists_modifiers_of_ofLine h with ⟨ms, hRead, hSet⟩
  have hShown : ∀ k m, f.modifiers.shown? k = some m →
      ∀ s ∈ m.strings, s.toList ⊆ line.text := by
    intro k m hShown s hMem
    rw [hSet] at hShown
    rcases Modifiers.setsByKey.exists_row_of_shown?_foldl hRead
      hShown with ⟨item, hItem, hOf⟩ | hNone
    · exact List.Subset.trans
        (Modifier.subset_of_ofItem hOf s hMem)
        (subset_of_mem_modifierItems hItem)
    · rw [Modifiers.shown?_empty] at hNone
      cases hNone
  intro s hMem
  rcases List.mem_append.mp hMem with hPattern | hDefault
  · rw [Option.mem_toList] at hPattern
    exact hShown "pattern" (.pattern s)
      (by rw [Modifiers.shown?, hPattern]; rfl) s
      List.mem_cons_self
  · rw [Option.mem_toList] at hDefault
    exact hShown "default" (.default s)
      (by rw [Modifiers.shown?, hDefault]; rfl) s
      List.mem_cons_self

namespace Field

/- The texts that a field holds. -/
def strings (f : Field) : List String :=
  f.name :: f.type.strings ++ f.modifiers.strings

/- What holds of a field that was read. -/
structure IsSound (f : Field) : Prop where
  name : isIdentifier f.name.toList = true
  type : f.type.IsSound

/- The name and the type of a field are parts of its line. -/
theorem exists_parts_of_ofLine
    {f : Field}
    (h : ofLine file line = .ok f) :
    ∃ name type,
      isIdentifier name = true ∧ name ⊆ line.text ∧
        type ⊆ line.text ∧ f.name = String.ofList name ∧
          f.type = FieldType.ofText type := by
  have hText := eq_ok_of_blame h
  unfold ofText at hText
  split at hText
  · cases hText
  · rename_i before after hColon
    have hParts := subset_of_cutAt hColon
    have hSpecification :=
      List.Subset.trans (trim_subset after) hParts.2
    dsimp only at hText
    split at hText
    · cases hText
    · rename_i hName
      split at hText
      · cases hText
      · rcases exists_of_bind_eq_ok hText with
          ⟨modifiers, _, hField⟩
        cases hField
        refine ⟨_, _, by simpa using hName,
          List.Subset.trans (trim_subset before) hParts.1,
          ?_, rfl, rfl⟩
        split
        · rename_i hComma
          exact List.Subset.trans (trim_subset _)
            (List.Subset.trans (subset_of_cutTopLevel hComma).1
              hSpecification)
        · exact hSpecification

theorem isSound_of_ofLine
    {f : Field}
    (h : ofLine file line = .ok f) :
    f.IsSound := by
  rcases exists_parts_of_ofLine h with
    ⟨name, type, hName, _, _, hSame, hType⟩
  constructor
  case name => rwa [hSame, String.toList_ofList]
  case type =>
      rw [hType]
      exact (FieldType.readFrom_ofText type).isSound

theorem subset_of_ofLine
    {f : Field}
    (h : ofLine file line = .ok f) :
    ∀ s ∈ f.strings, s.toList ⊆ line.text := by
  rcases exists_parts_of_ofLine h with
    ⟨name, type, _, hName, hPart, hSame, hType⟩
  rw [strings, List.cons_append, List.forall_mem_cons,
    List.forall_mem_append, hSame, hType, String.toList_ofList]
  refine ⟨hName, ?_, subset_of_mem_modifiers h⟩
  intro s hMem
  exact List.Subset.trans
    ((FieldType.readFrom_ofText type).subset s hMem) hPart

end Field

end Blueprint

------------------------------------------------------------
-- Entities
------------------------------------------------------------

namespace Blueprint

/- The texts that an entity holds. -/
def Entity.strings (e : Entity) : List String :=
  e.name :: e.fields.flatMap Field.strings

theorem Entity.isPartOf_of_ofBlock
    {file : String}
    {rest : List Char}
    {b : Block}
    {e : Entity}
    (h : Entity.ofBlock file rest b = .ok e)
    (hRest : rest ⊆ b.head.text) :
    ∀ s ∈ e.strings, IsPartOf b.lines s := by
  rcases exists_of_flatBlock h with
    ⟨name, fields, hName, hMap, rfl⟩
  rw [strings, List.forall_mem_cons]
  exact ⟨isPartOf_of_readName hRest hName,
    isPartOf_of_forall₂ (forall₂_of_mapM hMap)
      fun _ _ => Field.subset_of_ofLine⟩

end Blueprint
