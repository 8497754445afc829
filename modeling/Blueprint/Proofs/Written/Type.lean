import Blueprint.Field.Type
import Blueprint.Proofs.Text.Identifier

/-
  How the types of fields are written, and that they are
  read back whatever their texts hold.

  Main definitions:
    * `IsQuotable`
    * `EnumForm`
    * `TypeForm`, `TypeForm.text`, `TypeForm.type`
    * `TypeForm.IsWritable`, `TypeForm.IsOneLine`

  Main statements:
    * `TypeForm.ofText_text`
    * `TypeForm.scans_text`, `TypeForm.isSolid_text`
    * `TypeForm.not_mem_text`
-/

------------------------------------------------------------
-- Forms of Types
------------------------------------------------------------

namespace Blueprint

open Text

/- An escaped text that fits on one line. -/
def IsQuotable (text : List Char) : Prop :=
  IsEscaped text ∧ '\n' ∉ text

/- A value of an enumeration: bare, or in quotes. -/
inductive EnumForm where
| word (name : List Char)
| quoted (text : List Char)

namespace EnumForm

/- The value as it is written. -/
def text : EnumForm → List Char
| .word name => name
| .quoted text => inQuotes text

/- The value that is meant. -/
def value : EnumForm → String
| .word name => String.ofList name
| .quoted text => String.ofList text

/- Identifiers stand bare; quotes hold any other text. -/
def IsWritable : EnumForm → Prop
| .word name => isIdentifier name = true
| .quoted text => text ≠ [] ∧ IsQuotable text

end EnumForm

/- A type of any form. -/
inductive TypeForm where
| scalar (s : Scalar)
| enum (values : List EnumForm)
| ai (prompt : List Char)
| computed (expression : List Char)
| relationship (entity : List Char)
| list (entity : List Char)

namespace TypeForm

/- A keyword with an argument in parentheses. -/
def call (keyword : String) (argument : List Char) :
    List Char :=
  keyword.toList ++ ('(' :: argument ++ [')'])

/- The type as it is written. -/
def text : TypeForm → List Char
| .scalar s => s.word.toList
| .enum values =>
    call "enum" (joinWith [',', ' ']
      (values.map EnumForm.text))
| .ai prompt => call "ai" (inQuotes prompt)
| .computed expression => call "computed" expression
| .relationship entity =>
    entity ++ ' ' :: "(relationship)".toList
| .list entity => "list of ".toList ++ entity

/- The type that is meant. -/
def type : TypeForm → FieldType
| .scalar s => .scalar s
| .enum values => .enum (values.map EnumForm.value)
| .ai prompt => .ai (String.ofList prompt)
| .computed expression =>
    .computed (String.ofList expression)
| .relationship entity =>
    .relationship (String.ofList entity)
| .list entity => .list (String.ofList entity)

/-
  The texts that each form takes: a prompt is escaped, an
  expression is trimmed and closes its quotes and brackets,
  and an entity is named by an identifier.
-/
def IsWritable : TypeForm → Prop
| .scalar _ => True
| .enum values => ∀ v ∈ values, v.IsWritable
| .ai prompt => IsQuotable prompt
| .computed expression =>
    trim expression = expression ∧
      IsBalancedFrom 0 expression
| .relationship entity => isIdentifier entity = true
| .list entity => isIdentifier entity = true

/- An expression does not run over the end of the line. -/
def IsOneLine : TypeForm → Prop
| .computed expression => '\n' ∉ expression
| _ => True

end TypeForm

end Blueprint

------------------------------------------------------------
-- Values of Enumerations
------------------------------------------------------------

namespace Blueprint

open Text

namespace EnumForm

/- A value is solid. -/
theorem isSolid_text
    {v : EnumForm}
    (hWritable : v.IsWritable) :
    IsSolid v.text := by
  cases v with
  | word name => exact isSolid_of_isIdentifier hWritable
  | quoted text => exact isSolid_inQuotes text

/- A value has no comma outside its quotes. -/
theorem scans_text
    {v : EnumForm}
    (depth : Int)
    (hWritable : v.IsWritable) :
    Scans ',' (.plain depth) v.text (.plain depth) := by
  cases v with
  | word name =>
      exact scans_identifier depth hWritable (by decide)
  | quoted text =>
      rcases hWritable with ⟨_, hEscaped, _⟩
      exact scans_inQuotes depth (by decide) hEscaped

/- A value is on one line. -/
theorem not_mem_text
    {v : EnumForm}
    (hWritable : v.IsWritable) :
    '\n' ∉ v.text := by
  cases v with
  | word name =>
      exact not_mem_of_isIdentifier hWritable (by decide)
  | quoted text =>
      rcases hWritable with ⟨_, _, hLine⟩
      exact not_mem_inQuotes (by decide) hLine

/- The quotes of a value, if any, are taken off. -/
theorem ofList_unquoted_text
    {v : EnumForm}
    (hWritable : v.IsWritable) :
    String.ofList (unquoted v.text) = v.value := by
  cases v with
  | word name =>
      rw [EnumForm.text, unquoted,
        unquote?_identifier hWritable]
      rfl
  | quoted text =>
      rw [EnumForm.text, unquoted_inQuotes]
      rfl

/- A value is not empty without its quotes. -/
theorem unquoted_text_ne_nil
    {v : EnumForm}
    (hWritable : v.IsWritable) :
    unquoted v.text ≠ [] := by
  intro hNil
  have hValue := ofList_unquoted_text hWritable
  rw [hNil] at hValue
  cases v with
  | word name =>
      have hSame := String.ofList_injective hValue
      exact isIdentifier_ne_nil hWritable hSame.symm
  | quoted text =>
      have hSame := String.ofList_injective hValue
      exact hWritable.1 hSame.symm

/- The values of an enumeration are read back in order. -/
theorem listItems_joinWith
    {values : List EnumForm}
    (hWritable : ∀ v ∈ values, v.IsWritable) :
    listItems (joinWith [',', ' ']
        (values.map EnumForm.text)) =
      values.map EnumForm.value := by
  have hItems : topLevelItems (joinWith [',', ' ']
      (values.map EnumForm.text)) =
        values.map EnumForm.text := by
    apply topLevelItems_joinWith
    · rintro item hMem
      rcases List.mem_map.mp hMem with ⟨v, hValue, rfl⟩
      exact isSolid_text (hWritable v hValue)
    · rintro item hMem
      rcases List.mem_map.mp hMem with ⟨v, hValue, rfl⟩
      exact scans_text 0 (hWritable v hValue)
  have hSome : (values.map (unquoted ∘ EnumForm.text)).filter
      (fun item => !item.isEmpty) =
        values.map (unquoted ∘ EnumForm.text) := by
    rw [List.filter_eq_self]
    intro item hMem
    rcases List.mem_map.mp hMem with ⟨v, hValue, rfl⟩
    have hText := unquoted_text_ne_nil (hWritable v hValue)
    simpa using hText
  unfold listItems
  rw [hItems, List.map_map, hSome, List.map_map]
  apply List.map_congr_left
  intro v hMem
  exact ofList_unquoted_text (hWritable v hMem)

end EnumForm

end Blueprint

------------------------------------------------------------
-- Layout of Types
------------------------------------------------------------

namespace Blueprint

open Text

/- The word of a scalar type is a run of letters. -/
theorem Scalar.isIdentifier_word (s : Scalar) :
    isIdentifier s.word.toList = true := by
  cases s <;> decide

namespace TypeForm

/- A call starts with its keyword and ends with a bracket. -/
theorem isSolid_call
    {keyword : String}
    (argument : List Char)
    (hKeyword : isIdentifier keyword.toList = true) :
    IsSolid (call keyword argument) := by
  have hEnd : IsSolid [')'] := isSolid_singleton (by decide)
  have hSolid := (isSolid_of_isIdentifier hKeyword).append
    hEnd ('(' :: argument)
  rwa [List.append_assoc] at hSolid

/- A call is scanned when its argument is, inside brackets. -/
theorem scans_call
    {target : Char}
    {keyword : String}
    {argument : List Char}
    (hKeyword : isIdentifier keyword.toList = true)
    (hTarget : isIdentifierChar target = false)
    (hOpening : '(' ≠ target)
    (hClosing : ')' ≠ target)
    (hArgument :
      Scans target (.plain 1) argument (.plain 1)) :
    Scans target .outermost (call keyword argument)
      .outermost := by
  have hWord : Scans target (.plain 0) keyword.toList
      (.plain 0) :=
    scans_identifier 0 hKeyword hTarget
  exact hWord.append
    (scans_bracketed 0 hOpening hClosing hArgument)

/- A call is on one line when its argument is. -/
theorem not_mem_call
    {keyword : String}
    {argument : List Char}
    (hKeyword : isIdentifier keyword.toList = true)
    (hArgument : '\n' ∉ argument) :
    '\n' ∉ call keyword argument := by
  have hWord : '\n' ∉ keyword.toList :=
    not_mem_of_isIdentifier hKeyword (by decide)
  simp [call, hWord, hArgument]

/- A written type is solid. -/
theorem isSolid_text
    {form : TypeForm}
    (hWritable : form.IsWritable) :
    IsSolid form.text := by
  cases form with
  | scalar s =>
      exact isSolid_of_isIdentifier s.isIdentifier_word
  | enum values => exact isSolid_call _ (by decide)
  | ai prompt => exact isSolid_call _ (by decide)
  | computed expression => exact isSolid_call _ (by decide)
  | relationship entity =>
      have hEnd : IsSolid "(relationship)".toList :=
        isSolid_enclosed (by decide) (by decide)
          "relationship".toList
      have hSolid :=
        (isSolid_of_isIdentifier hWritable).append hEnd [' ']
      rwa [List.append_assoc] at hSolid
  | list entity =>
      have hWord : isIdentifier "list".toList = true := by
        decide
      exact (isSolid_of_isIdentifier hWord).append
        (isSolid_of_isIdentifier hWritable) " of ".toList

/-
  A written type has no comma outside its quotes and
  brackets.
-/
theorem scans_text
    {form : TypeForm}
    (hWritable : form.IsWritable) :
    Scans ',' .outermost form.text .outermost := by
  cases form with
  | scalar s =>
      exact scans_identifier 0 s.isIdentifier_word
        (by decide)
  | enum values =>
      apply scans_call (by decide) (by decide) (by decide)
        (by decide)
      apply scans_joinWith
      · have hPlain : ∀ c ∈ [',', ' '], IsPlain c := by
          simp [IsPlain]
        exact scans_plain 1 hPlain (by simp)
      · intro item hMem
        rcases List.mem_map.mp hMem with ⟨v, hValue, rfl⟩
        exact EnumForm.scans_text 1 (hWritable v hValue)
  | ai prompt =>
      exact scans_call (by decide) (by decide) (by decide)
        (by decide) (scans_inQuotes 1 (by decide) hWritable.1)
  | computed expression =>
      exact scans_call (by decide) (by decide) (by decide)
        (by decide) (scans_balanced (by decide) hWritable.2)
  | relationship entity =>
      have hEntity : Scans ',' (.plain 0) entity (.plain 0) :=
        scans_identifier 0 hWritable (by decide)
      have hSpace : Scans ',' (.plain 0) [' '] (.plain 0) :=
        scans_plain 0 (by simp [IsPlain]) (by simp)
      have hWord : Scans ',' (.plain 1)
          "relationship".toList (.plain 1) :=
        scans_identifier 1 (by decide) (by decide)
      have hBrackets :=
        scans_bracketed 0 (by decide) (by decide) hWord
      exact hEntity.append (hSpace.append hBrackets)
  | list entity =>
      have hStart : Scans ',' (.plain 0) "list of ".toList
          (.plain 0) :=
        scans_plain 0 (by simp [IsPlain]) (by decide)
      exact hStart.append
        (scans_identifier 0 hWritable (by decide))

/- A written type is on one line when its expression is. -/
theorem not_mem_text
    {form : TypeForm}
    (hWritable : form.IsWritable)
    (hLine : form.IsOneLine) :
    '\n' ∉ form.text := by
  cases form with
  | scalar s =>
      exact not_mem_of_isIdentifier s.isIdentifier_word
        (by decide)
  | enum values =>
      apply not_mem_call (by decide)
      apply not_mem_joinWith (by decide)
      intro item hMem
      rcases List.mem_map.mp hMem with ⟨v, hValue, rfl⟩
      exact EnumForm.not_mem_text (hWritable v hValue)
  | ai prompt =>
      apply not_mem_call (by decide)
      exact not_mem_inQuotes (by decide) hWritable.2
  | computed expression =>
      have hExpression : '\n' ∉ expression := hLine
      exact not_mem_call (by decide) hExpression
  | relationship entity =>
      have hEntity : '\n' ∉ entity :=
        not_mem_of_isIdentifier hWritable (by decide)
      have hWord : '\n' ∉ ' ' :: "(relationship)".toList := by
        decide
      exact List.not_mem_append hEntity hWord
  | list entity =>
      have hEntity : '\n' ∉ entity :=
        not_mem_of_isIdentifier hWritable (by decide)
      have hWord : '\n' ∉ "list of ".toList := by decide
      exact List.not_mem_append hWord hEntity

end TypeForm

end Blueprint

------------------------------------------------------------
-- Reading Types Back
------------------------------------------------------------

namespace Blueprint

open Text

/- What is between two marks is read back. -/
theorem enclosed?_append
    (opening text closing : List Char) :
    enclosed? opening closing
      (opening ++ (text ++ closing)) = some text := by
  have hStart :
      stripStart opening (opening ++ (text ++ closing)) =
        some (text ++ closing) :=
    stripStart_eq_some_iff.mpr rfl
  have hEnd : stripEnd closing (text ++ closing) = some text :=
    stripEnd_eq_some_iff.mpr rfl
  rw [enclosed?, hStart]
  exact hEnd

namespace FieldType

/- The readers are tried one after the other. -/
theorem ofText_eq (text : List Char) :
    ofText text =
      ((readScalar? text).or
        ((readEnum? text).or
          ((readAi? text).or
            ((readComputed? text).or
              ((readRelationship? text).or
                (readListOf? text)))))).getD
        (.unrecognized (String.ofList text)) := by
  have hOr : ∀ a b : Option FieldType,
      (a <|> b) = a.or b := by
    intro a b
    cases a <;> rfl
  unfold ofText
  dsimp only
  rw [hOr, hOr, hOr, hOr, hOr]

/- A scalar type is read back. -/
theorem readScalar?_word (s : Scalar) :
    readScalar? s.word.toList = some (.scalar s) := by
  rw [readScalar?, String.ofList_toList, Scalar.ofWord?_word]
  rfl

/- Only a run of letters is a scalar type. -/
theorem readScalar?_eq_none
    {text : List Char}
    {c : Char}
    (hMem : c ∈ text)
    (hChar : isIdentifierChar c = false) :
    readScalar? text = none := by
  unfold readScalar?
  rw [Option.map_eq_none_iff]
  by_contra hNot
  rcases Option.ne_none_iff_exists'.mp hNot with
    ⟨s, hScalar⟩
  have hWord : s.word == String.ofList text := by
    simpa using List.find?_some hScalar
  rw [beq_iff_eq] at hWord
  have hText : s.word.toList = text := by
    rw [hWord, String.toList_ofList]
  rw [← hText] at hMem
  exact not_mem_of_isIdentifier s.isIdentifier_word hChar
    hMem

/- A call is no scalar type. -/
theorem readScalar?_call
    (keyword : String)
    (argument : List Char) :
    readScalar? (TypeForm.call keyword argument) = none := by
  have hMem : '(' ∈ TypeForm.call keyword argument := by
    simp [TypeForm.call]
  exact readScalar?_eq_none hMem (by decide)

/- An enumeration is read back as its list of values. -/
theorem readEnum?_call (argument : List Char) :
    readEnum? (TypeForm.call "enum" argument) =
      some (.enum (listItems argument)) := by
  have hInner : enclosed? "enum(".toList [')']
      (TypeForm.call "enum" argument) = some argument :=
    enclosed?_append "enum(".toList argument [')']
  rw [readEnum?, hInner]
  rfl

/- The quoted prompt of a call is read back. -/
theorem promptText_call
    {prompt : List Char}
    (hPrompt : IsEscaped prompt) :
    promptText (TypeForm.call "ai" (inQuotes prompt)) =
      prompt := by
  have hStrip :
      stripStart "ai(".toList
          (TypeForm.call "ai" (inQuotes prompt)) =
        some (inQuotes prompt ++ [')']) :=
    stripStart_eq_some_iff.mpr rfl
  have hSole : soleQuoted? (inQuotes prompt ++ [')']) =
      some prompt := by
    have hStart : trimStart (inQuotes prompt ++ [')']) =
        inQuotes prompt ++ [')'] :=
      rfl
    rw [soleQuoted?, hStart, quoted?_inQuotes [')'] hPrompt]
    rfl
  rw [promptText, hStrip, Option.bind_some, hSole]

/- A call with a quoted prompt is read back. -/
theorem readAi?_call
    {prompt : List Char}
    (hPrompt : IsEscaped prompt) :
    readAi? (TypeForm.call "ai" (inQuotes prompt)) =
      some (.ai (String.ofList prompt)) := by
  have hStrip :
      stripStart "ai(".toList
          (TypeForm.call "ai" (inQuotes prompt)) =
        some (inQuotes prompt ++ [')']) :=
    stripStart_eq_some_iff.mpr rfl
  rw [readAi?, hStrip, promptText_call hPrompt]
  rfl

/- A trimmed expression is read back. -/
theorem readComputed?_call
    {expression : List Char}
    (hTrim : trim expression = expression) :
    readComputed? (TypeForm.call "computed" expression) =
      some (.computed (String.ofList expression)) := by
  have hInner : enclosed? "computed(".toList [')']
      (TypeForm.call "computed" expression) =
        some expression :=
    enclosed?_append "computed(".toList expression [')']
  rw [readComputed?, hInner, Option.map_some, hTrim]

/- A relationship is read back. -/
theorem readRelationship?_text
    {entity : List Char}
    (hEntity : isIdentifier entity = true) :
    readRelationship?
        (entity ++ ' ' :: "(relationship)".toList) =
      some (.relationship (String.ofList entity)) := by
  have hSpace : isIdentifierChar ' ' = false := by decide
  have hRun := takeWhile_identifier_append
    "(relationship)".toList
    (forall_isIdentifierChar hEntity) hSpace
  have hInner : enclosed? ['('] [')']
      (trimStart (' ' :: "(relationship)".toList)) =
        some "relationship".toList := by
    decide
  have hTrim : (trim "relationship".toList ==
      "relationship".toList) = true := by
    decide
  unfold readRelationship?
  dsimp only
  rw [hRun.1, hRun.2, hInner]
  simp only [hEntity, hTrim, Bool.and_self, if_true]

/- A list is read back. -/
theorem readListOf?_text
    {entity : List Char}
    (hEntity : isIdentifier entity = true) :
    readListOf? ("list of ".toList ++ entity) =
      some (.list (String.ofList entity)) := by
  have hStart : trimStart entity = entity := by
    have hSolid := isSolid_of_isIdentifier hEntity
    cases entity with
    | nil => rfl
    | cons c rest => exact trimStart_cons (hSolid.first c rfl)
  have hRead : readListOf? ("list of ".toList ++ entity) =
      if isIdentifier (trimStart entity) then
        some (.list (String.ofList (trimStart entity)))
      else
        none :=
    rfl
  rw [hRead, hStart, if_pos hEntity]

end FieldType

end Blueprint

------------------------------------------------------------
-- Telling Types Apart
------------------------------------------------------------

namespace Blueprint

open Text

namespace FieldType

/- A written scalar type is that type. -/
theorem ofText_word (s : Scalar) :
    ofText s.word.toList = .scalar s := by
  rw [ofText_eq, readScalar?_word]
  rfl

/- A written enumeration is that of its values. -/
theorem ofText_enum
    {values : List EnumForm}
    (hWritable : ∀ v ∈ values, v.IsWritable) :
    ofText (TypeForm.call "enum" (joinWith [',', ' ']
        (values.map EnumForm.text))) =
      .enum (values.map EnumForm.value) := by
  rw [ofText_eq, readScalar?_call, readEnum?_call,
    EnumForm.listItems_joinWith hWritable]
  rfl

/- A written prompt is that prompt. -/
theorem ofText_ai
    {prompt : List Char}
    (hPrompt : IsEscaped prompt) :
    ofText (TypeForm.call "ai" (inQuotes prompt)) =
      .ai (String.ofList prompt) := by
  have hEnum : readEnum?
      (TypeForm.call "ai" (inQuotes prompt)) = none :=
    rfl
  rw [ofText_eq, readScalar?_call, hEnum,
    readAi?_call hPrompt]
  rfl

/- A written expression is that expression. -/
theorem ofText_computed
    {expression : List Char}
    (hTrim : trim expression = expression) :
    ofText (TypeForm.call "computed" expression) =
      .computed (String.ofList expression) := by
  have hEnum : readEnum?
      (TypeForm.call "computed" expression) = none :=
    rfl
  have hAi : readAi?
      (TypeForm.call "computed" expression) = none :=
    rfl
  rw [ofText_eq, readScalar?_call, hEnum, hAi,
    readComputed?_call hTrim]
  rfl

/-
  A name in front of a space does not open a call, even if
  it is the keyword of one.
-/
theorem stripStart_keyword_eq_none
    {keyword entity : List Char}
    (rest : List Char)
    (hKeyword : isIdentifier keyword = true)
    (hEntity : isIdentifier entity = true) :
    stripStart (keyword ++ ['(']) (entity ++ ' ' :: rest) =
      none :=
  stripStart_eq_none_of_run
    (forall_isIdentifierChar hKeyword) (by decide)
    (forall_isIdentifierChar hEntity) (by decide)
    (by decide)

/-
  A written relationship is one to that entity, which may
  be named like the keyword of another type.
-/
theorem ofText_relationship
    {entity : List Char}
    (hEntity : isIdentifier entity = true) :
    ofText (entity ++ ' ' :: "(relationship)".toList) =
      .relationship (String.ofList entity) := by
  have hScalar : readScalar?
      (entity ++ ' ' :: "(relationship)".toList) = none :=
    readScalar?_eq_none
      (List.mem_append_right _ List.mem_cons_self)
      (show isIdentifierChar ' ' = false by decide)
  have hCall : ∀ keyword : List Char,
      isIdentifier keyword = true →
        stripStart (keyword ++ ['('])
          (entity ++ ' ' :: "(relationship)".toList) =
            none :=
    fun keyword hKeyword =>
      stripStart_keyword_eq_none _ hKeyword hEntity
  have hEnum : readEnum?
      (entity ++ ' ' :: "(relationship)".toList) = none := by
    have hStrip : stripStart "enum(".toList
        (entity ++ ' ' :: "(relationship)".toList) = none :=
      hCall "enum".toList (by decide)
    rw [readEnum?, enclosed?, hStrip]
    rfl
  have hAi : readAi?
      (entity ++ ' ' :: "(relationship)".toList) = none := by
    have hStrip : stripStart "ai(".toList
        (entity ++ ' ' :: "(relationship)".toList) = none :=
      hCall "ai".toList (by decide)
    rw [readAi?, hStrip]
    rfl
  have hComputed : readComputed?
      (entity ++ ' ' :: "(relationship)".toList) = none := by
    have hStrip : stripStart "computed(".toList
        (entity ++ ' ' :: "(relationship)".toList) = none :=
      hCall "computed".toList (by decide)
    rw [readComputed?, enclosed?, hStrip]
    rfl
  rw [ofText_eq, hScalar, hEnum, hAi, hComputed,
    readRelationship?_text hEntity]
  rfl

/- A written list is one of that entity. -/
theorem ofText_list
    {entity : List Char}
    (hEntity : isIdentifier entity = true) :
    ofText ("list of ".toList ++ entity) =
      .list (String.ofList entity) := by
  have hSpace : ' ' ∈ "list of ".toList ++ entity :=
    List.mem_append_left _
      (show ' ' ∈ "list of ".toList by decide)
  have hScalar : readScalar?
      ("list of ".toList ++ entity) = none :=
    readScalar?_eq_none hSpace (by decide)
  have hEnum : readEnum?
      ("list of ".toList ++ entity) = none :=
    rfl
  have hAi : readAi? ("list of ".toList ++ entity) = none :=
    rfl
  have hComputed : readComputed?
      ("list of ".toList ++ entity) = none :=
    rfl
  have hRelationship : readRelationship?
      ("list of ".toList ++ entity) = none :=
    rfl
  rw [ofText_eq, hScalar, hEnum, hAi, hComputed,
    hRelationship, readListOf?_text hEntity]
  rfl

end FieldType

/- Every written type is read back. -/
theorem TypeForm.ofText_text
    {form : TypeForm}
    (hWritable : form.IsWritable) :
    FieldType.ofText form.text = form.type := by
  cases form with
  | scalar s => exact FieldType.ofText_word s
  | enum values => exact FieldType.ofText_enum hWritable
  | ai prompt => exact FieldType.ofText_ai hWritable.1
  | computed expression =>
      exact FieldType.ofText_computed hWritable.1
  | relationship entity =>
      exact FieldType.ofText_relationship hWritable
  | list entity => exact FieldType.ofText_list hWritable

end Blueprint
