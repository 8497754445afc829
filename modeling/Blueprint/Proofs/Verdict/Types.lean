import Blueprint.Proofs.Places.Apart
import Blueprint.Proofs.Rule.Document
import Blueprint.Proofs.Written.OpenCall

/-
  Types that are not recognized: the fields that have one
  are told of where they stand. A type that opens a call and
  never closes it is among them, unless it is a prompt.

  Main definitions:
    * `Field.invalidTypeIssue?`
    * `OpenCallField`
    * `OpenCallRead`

  Main statements:
    * `issuesAt_fieldInvalidType`
    * `Field.ofText_openCallField`
    * `open_call_read`
-/

------------------------------------------------------------
-- Unrecognized Types
------------------------------------------------------------

namespace Blueprint

/- The issue of a field whose type is not recognized. -/
def Field.invalidTypeIssue?
    (entity : String)
    (f : Field) : Option Issue :=
  match f.type with
  | .unrecognized raw =>
      some (.of (.error (.fieldInvalidType entity f.name raw))
        f.location)
  | _ => none

/- A field is told of if its type is not recognized. -/
theorem withCodes_fieldIssues
    (table : SymbolTable)
    (entity : String)
    (f : Field) :
    withCodes [.fieldInvalidType]
        (fieldIssues table entity f) =
      (f.invalidTypeIssue? entity).toList := by
  have hBound : withCodes [.fieldInvalidType]
      ((boundFinding? entity f).toList.map
        (.of · f.location)) = [] := by
    cases hFinding : boundFinding? entity f with
    | none => rfl
    | some finding =>
        simp [(tellsOf_of_boundFinding? hFinding).code_eq]
  rw [fieldIssues, List.map_append, withCodes_append, hBound,
    List.append_nil]
  unfold typeFinding? Field.invalidTypeIssue?
  cases f.type with
  | scalar s => rfl
  | unrecognized raw => simp [Matter.code]
  | enum _ | ai _ | computed _ | relationship _ | list _ =>
      dsimp only
      split
      · simp [Matter.code]
      · simp [Matter.code]

/- An entity tells of its fields one by one. -/
theorem withCodes_entityIssues
    (table : SymbolTable)
    (e : Entity) :
    withCodes [.fieldInvalidType] (entityIssues table e) =
      e.fields.filterMap
        (Field.invalidTypeIssue? e.name) := by
  have hNone : withCodes [.fieldInvalidType]
      (if e.fields.isEmpty then
        [.of (.warning (.entityNoFields e.name)) e.location]
      else
        []) = [] := by
    split
    · simp [Matter.code]
    · rfl
  rw [entityIssues, withCodes_append, hNone, List.nil_append]
  exact withCodes_flatMap_eq_filterMap
    (withCodes_fieldIssues table e.name)

/- The issues at one place are among those of more places. -/
theorem issuesAt_eq_filter_issuesWithin
    {code : Code}
    {location : Location}
    {places : List Location}
    (issues : List Issue)
    (hPlace : location ∈ places) :
    issuesAt code location issues =
      (issuesWithin code places issues).filter
        (·.location == some location) := by
  unfold issuesAt issuesWithin withCodes
  rw [List.filter_filter, List.filter_filter]
  apply List.filter_congr
  intro i _
  rw [Bool.eq_iff_iff]
  simp only [Bool.and_eq_true, beq_iff_eq, List.any_eq_true,
    List.map_singleton, List.contains_eq_mem,
    List.mem_singleton, decide_eq_true_eq]
  constructor
  · rintro ⟨hCode, hHere⟩
    exact ⟨⟨hHere, location, hPlace, hHere⟩, hCode⟩
  · rintro ⟨⟨hHere, _⟩, hCode⟩
    exact ⟨hCode, hHere⟩

end Blueprint

------------------------------------------------------------
-- Fields of a Document
------------------------------------------------------------

namespace Blueprint

variable {file source : String}
variable {spec : Spec}
variable {b : Block}
variable {e : Entity}

/- The fields of an entity are read from its lines in order. -/
theorem Entity.forall₂_fields
    (hRead : Declaration.ofBlock file b = .ok (.entity e))
    (hOpens : b.head.opens .entity = true) :
    List.Forall₂
      (fun line f => Field.ofLine file line = .ok f)
      b.body e.fields := by
  rw [Declaration.ofBlock_of_opens hOpens] at hRead
  obtain ⟨other, hEntity, hSame⟩ :=
    Declaration.exists_of_map_eq_ok hRead
  cases hSame
  obtain ⟨name, fields, _, hMap, rfl⟩ :=
    exists_of_flatBlock hEntity
  exact forall₂_of_mapM hMap

/- No two fields of an entity stand at one line. -/
theorem Entity.fields_line_pairwise
    (hBlock : b ∈ documentBlocks source)
    (hFields : List.Forall₂
      (fun line f => Field.ofLine file line = .ok f)
      b.body e.fields) :
    e.fields.Pairwise
      (fun f g => f.location.line < g.location.line) := by
  have hPlaces := places_pairwise_of_forall₂ hBlock hFields
    fun _ _ => Field.location_of_ofLine
  rw [List.pairwise_cons, List.pairwise_map] at hPlaces
  exact hPlaces.2

/-
  At the place of a field, verification tells of the type of
  just this field.
-/
theorem issuesAt_fieldInvalidType
    {f : Field}
    (hSpec : Spec.parse file source = .ok spec)
    (hBlock : b ∈ documentBlocks source)
    (hOpens : b.head.opens .entity = true)
    (hRead : Declaration.ofBlock file b = .ok (.entity e))
    (hField : f ∈ e.fields) :
    issuesAt .fieldInvalidType f.location
        spec.verify.issues =
      (f.invalidTypeIssue? e.name).toList := by
  have hEntity : e ∈ spec.entities := by
    have hMem :=
      Spec.mem_ofKind_of_ofBlock hSpec hBlock hRead
    obtain ⟨other, hOther, hSame⟩ := List.mem_map.mp hMem
    cases hSame
    exact hOther
  have hPlaced : ∀ g : Field, ∀ i,
      g.invalidTypeIssue? e.name = some i →
        i.location = some g.location := by
    intro g i hIssue
    unfold Field.invalidTypeIssue? at hIssue
    split at hIssue
    · cases hIssue
      rfl
    · cases hIssue
  have hNone : ∀ g : Field, g.location ≠ f.location →
      (g.invalidTypeIssue? e.name).toList.filter
        (·.location == some f.location) = [] := by
    intro g hOther
    rw [List.filter_eq_nil_iff]
    intro i hMem
    rw [hPlaced g i (Option.mem_toList.mp hMem)]
    simpa using hOther
  rw [issuesAt_eq_filter_issuesWithin _
      (Entity.field_mem_places hField),
    Spec.issuesWithin_entity hSpec hEntity (by decide),
    withCodes_entityIssues, List.filterMap_eq_flatMap_toList,
    List.filter_flatMap]
  have hPair := Entity.fields_line_pairwise hBlock
    (Entity.forall₂_fields hRead hOpens)
  rw [flatMap_eq_of_pairwise hPair hField, List.filter_eq_self]
  · intro i hMem
    rw [hPlaced f i (Option.mem_toList.mp hMem)]
    exact beq_self_eq_true _
  · intro g hLess
    apply hNone g
    intro hSame
    rw [hSame] at hLess
    exact Nat.lt_irrefl _ hLess
  · intro g hLess
    apply hNone g
    intro hSame
    rw [hSame] at hLess
    exact Nat.lt_irrefl _ hLess

end Blueprint

------------------------------------------------------------
-- Fields with Unclosed Calls
------------------------------------------------------------

namespace Blueprint

open Text

/-
  A line writes a field whose type opens a call and never
  closes it.
-/
structure OpenCallField
    (line name : List Char)
    (w : CallWord)
    (rest : List Char) : Prop where
  parts : ∃ before after, line = before ++ ':' :: after ∧
    trim before = name ∧ trim after = w.opening ++ rest
  name : isIdentifier name = true
  unclosed : IsUnclosed rest

/- The field has no modifiers, whatever the line holds. -/
theorem Field.ofText_openCallField
    {line name rest : List Char}
    {w : CallWord}
    (location : Location)
    (hLine : OpenCallField line name w rest) :
    Field.ofText location line =
      .ok {
        name := String.ofList name
        type := FieldType.ofText (w.opening ++ rest)
        modifiers := {}
        location := location } := by
  obtain ⟨before, after, rfl, hBefore, hAfter⟩ := hLine.parts
  have hColon : ':' ∉ before := by
    intro hMem
    obtain ⟨start, stop, hText, hStart, hStop⟩ :=
      exists_eq_append_trim before
    rw [hText, hBefore] at hMem
    simp only [List.mem_append] at hMem
    rcases hMem with (hMem | hMem) | hMem
    · exact absurd (hStart _ hMem) (by decide)
    · exact not_mem_of_isIdentifier hLine.name (by decide)
        hMem
    · exact absurd (hStop _ hMem) (by decide)
  have hCut : cutAt (· == ':') (before ++ ':' :: after) =
      some (before, after) :=
    cutAt_append_cons_of_not_mem after hColon
  have hSome : (w.opening ++ rest).isEmpty = false := by
    simp [CallWord.opening]
  have hNone := cutTopLevel_of_isUnclosed w hLine.unclosed
  unfold Field.ofText
  rw [hCut]
  simp only [hBefore, hAfter, hLine.name, hSome]
  unfold Field.ofSpecification
  rw [hNone]
  rfl

end Blueprint

------------------------------------------------------------
-- Unclosed Calls in Documents
------------------------------------------------------------

namespace Blueprint

open Text

/- A line of an entity in a document that was read. -/
structure Spec.HasFieldLine
    (spec : Spec)
    (file source : String)
    (b : Block)
    (line : Line) : Prop where
  read : Spec.parse file source = .ok spec
  block : b ∈ documentBlocks source
  opens : b.head.opens .entity = true
  below : line ∈ b.body

/- The field of the line is told of as its type says. -/
theorem Spec.HasFieldLine.exists_entity
    {spec : Spec}
    {file source : String}
    {b : Block}
    {line : Line}
    {f : Field}
    (hLine : spec.HasFieldLine file source b line)
    (hField : Field.ofLine file line = .ok f) :
    ∃ e ∈ spec.entities,
      e.location = b.head.location file ∧ f ∈ e.fields ∧
        issuesAt .fieldInvalidType (line.location file)
            spec.verify.issues =
          (f.invalidTypeIssue? e.name).toList := by
  obtain ⟨d, hMem, hRead⟩ :=
    Spec.exists_mem_ofKind hLine.read hLine.block hLine.opens
  obtain ⟨e, hEntity, rfl⟩ := List.mem_map.mp hMem
  have hFields := Entity.forall₂_fields hRead hLine.opens
  obtain ⟨g, hDeclared, hSame⟩ :=
    exists_item_of_forall₂ hFields line hLine.below
  rw [hField] at hSame
  cases hSame
  have hPlace :=
    (Declaration.gives_ofBlock b (.entity e) hRead).1
  refine ⟨e, hEntity, hPlace, hDeclared, ?_⟩
  rw [← Field.location_of_ofLine hField]
  exact issuesAt_fieldInvalidType hLine.read hLine.block
    hLine.opens hRead hDeclared

/-
  What becomes of a field whose type opens a call and never
  closes it. The line is always read, and nothing in it is
  taken for a modifier. Values and an expression that do not
  end with a parenthesis are told of as a type that is not
  recognized. A prompt takes up all of the line instead: it
  is the text behind the parenthesis, if that has no quotes
  and does not look like a call itself.
-/
structure OpenCallRead
    (text name : List Char)
    (w : CallWord)
    (rest : List Char) : Prop where
  alone :
    ∀ file line, line.text = text →
      Field.ofLine file line =
        .ok {
          name := String.ofList name
          type := FieldType.ofText (w.opening ++ rest)
          modifiers := {}
          location := line.location file }
  refused :
    w ≠ .ai → ¬ [')'] <:+ rest →
      ∀ spec file source b line,
        Spec.HasFieldLine spec file source b line →
          line.text = text →
            ∃ e ∈ spec.entities,
              e.location = b.head.location file ∧
                issuesAt .fieldInvalidType
                    (line.location file)
                    spec.verify.issues =
                  [.of (.error (.fieldInvalidType e.name
                      (String.ofList name)
                      (String.ofList (w.opening ++ rest))))
                    (line.location file)]
  prompted :
    w = .ai →
      ∀ spec file source b line,
        Spec.HasFieldLine spec file source b line →
          line.text = text →
            ∃ e ∈ spec.entities, ∃ prompt : List Char,
              e.location = b.head.location file ∧
                { name := String.ofList name
                  type := .ai (String.ofList prompt)
                  modifiers := {}
                  location := line.location file : Field } ∈
                    e.fields ∧
                issuesAt .fieldInvalidType
                    (line.location file)
                    spec.verify.issues = [] ∧
                ('"' ∉ rest → ¬ "ai(".toList <+: rest →
                  ¬ [')'] <:+ rest → prompt = trim rest)

variable {text name rest : List Char}
variable {w : CallWord}

/- A field with an unclosed call is read from its line. -/
theorem OpenCallField.ofLine_eq
    (hText : OpenCallField text name w rest)
    (file : String)
    {line : Line}
    (hLine : line.text = text) :
    Field.ofLine file line =
      .ok {
        name := String.ofList name
        type := FieldType.ofText (w.opening ++ rest)
        modifiers := {}
        location := line.location file } := by
  rw [Field.ofLine, hLine, Field.ofText_openCallField _ hText]
  rfl

theorem openCallRead_of_openCallField
    (hText : OpenCallField text name w rest) :
    OpenCallRead text name w rest where
  alone := fun file _ hLine => hText.ofLine_eq file hLine
  refused := by
    intro hWord hEnd spec file source b line hPlace hLine
    have hField := hText.ofLine_eq file hLine
    rw [FieldType.ofText_malformed hWord hEnd] at hField
    obtain ⟨e, hEntity, hHead, _, hIssues⟩ :=
      hPlace.exists_entity hField
    exact ⟨e, hEntity, hHead, hIssues⟩
  prompted := by
    rintro rfl spec file source b line hPlace hLine
    have hField := hText.ofLine_eq file hLine
    rw [FieldType.ofText_ai_opening] at hField
    obtain ⟨e, hEntity, hHead, hDeclared, hIssues⟩ :=
      hPlace.exists_entity hField
    exact ⟨e, hEntity, _, hHead, hDeclared, hIssues,
      FieldType.promptText_unclosed⟩

/-
  Calls that are not closed are refused or read as prompts,
  and prompts without quotes are read back from their calls.
-/
theorem open_call_read :
    (∀ text name w rest, OpenCallField text name w rest →
      OpenCallRead text name w rest) ∧
    ∀ prompt, trim prompt = prompt → '"' ∉ prompt →
      ¬ "ai(".toList <+: prompt → ¬ [')'] <:+ prompt →
        FieldType.ofText (TypeForm.call "ai" prompt) =
          .ai (String.ofList prompt) :=
  ⟨fun _ _ _ _ => openCallRead_of_openCallField,
    fun _ => FieldType.ofText_call_of_plain⟩

/- A prompt that takes up a modifier. -/
theorem openCallField_mood :
    OpenCallField "mood: ai(describe the mood, required".toList
      "mood".toList .ai "describe the mood, required".toList :=
  ⟨⟨"mood".toList, " ai(describe the mood, required".toList,
    by decide⟩, by decide, by decide +kernel⟩

/- A document with a list of values and a prompt left open. -/
def openCallSource : String :=
  "app \"Shop\"\nentity Item\n" ++
    "  size: enum(small, large, required\n" ++
    "  mood: ai(describe the mood, required\n"

/- What it declares. -/
def openCallSpec : Spec where
  appName := "Shop"
  entities := [{
    name := "Item"
    fields := [
      ⟨"size", .unrecognized "enum(small, large, required",
        {}, ⟨"shop", 3⟩⟩,
      ⟨"mood", .ai "describe the mood, required", {},
        ⟨"shop", 4⟩⟩]
    location := ⟨"shop", 2⟩ }]
  screens := []
  flows := []
  rules := []
  integrations := []
  events := []

/- Its only block. -/
def openCallBlock : Block where
  head := ⟨"entity Item".toList, 0, 2⟩
  body := [
    ⟨"size: enum(small, large, required".toList, 1, 3⟩,
    ⟨"mood: ai(describe the mood, required".toList, 1, 4⟩]

/- The list of values is refused, and the prompt is not. -/
theorem open_call_read_openCallSpec :
    Spec.parse "shop" openCallSource = .ok openCallSpec ∧
      issuesAt .fieldInvalidType ⟨"shop", 3⟩
          openCallSpec.verify.issues =
        [.of (.error (.fieldInvalidType "Item" "size"
            "enum(small, large, required"))
          ⟨"shop", 3⟩] ∧
      issuesAt .fieldInvalidType ⟨"shop", 4⟩
          openCallSpec.verify.issues = [] ∧
      FieldType.ofText
          (TypeForm.call "ai" "tell [all (of it)] now".toList) =
        .ai "tell [all (of it)] now" := by
  have hSize : OpenCallField
      "size: enum(small, large, required".toList
      "size".toList .enum "small, large, required".toList :=
    ⟨⟨"size".toList, " enum(small, large, required".toList,
      by decide⟩, by decide, by decide +kernel⟩
  have hParse : Spec.parse "shop" openCallSource =
      .ok openCallSpec := by
    decide +kernel
  have hBlock :
      openCallBlock ∈ documentBlocks openCallSource := by
    decide +kernel
  refine ⟨hParse, ?_, ?_, ?_⟩
  · obtain ⟨e, hEntity, _, hIssues⟩ :=
      (open_call_read.1 _ _ _ _ hSize).refused (by decide)
        (by decide) openCallSpec "shop" openCallSource
        openCallBlock
        ⟨"size: enum(small, large, required".toList, 1, 3⟩
        ⟨hParse, hBlock, by decide, by decide⟩ rfl
    rw [List.mem_singleton.mp hEntity] at hIssues
    exact hIssues
  · obtain ⟨e, _, prompt, _, _, hIssues, _⟩ :=
      (open_call_read.1 _ _ _ _ openCallField_mood).prompted
        rfl openCallSpec "shop" openCallSource openCallBlock
        ⟨"mood: ai(describe the mood, required".toList, 1, 4⟩
        ⟨hParse, hBlock, by decide, by decide⟩ rfl
    exact hIssues
  · exact open_call_read.2 "tell [all (of it)] now".toList
      (by decide) (by decide) (by decide) (by decide)

/- Calls that are left open, and a prompt with a call. -/
def brokenCallSource : String :=
  "app \"Shop\"\nentity Item\n" ++
    "  mood: ai(describe the mood, required\n" ++
    "  size: enum((small, large, required)\n" ++
    "  note: ai(f(x))\n"

/- What it declares: the note has lost a parenthesis. -/
def brokenCallSpec : Spec where
  appName := "Shop"
  entities := [{
    name := "Item"
    fields := [
      ⟨"mood", .ai "describe the mood, required", {},
        ⟨"shop", 3⟩⟩,
      ⟨"size", .enum ["(small, large, required"], {},
        ⟨"shop", 4⟩⟩,
      ⟨"note", .ai "f(x", {}, ⟨"shop", 5⟩⟩]
    location := ⟨"shop", 2⟩ }]
  screens := []
  flows := []
  rules := []
  integrations := []
  events := []

/-
  Neither of the open calls is refused, and a prompt with
  balanced parentheses is not read back.
-/
theorem not_refused_brokenCallSpec :
    OpenCallField
        "mood: ai(describe the mood, required".toList
        "mood".toList .ai
        "describe the mood, required".toList ∧
      OpenCallField
        "size: enum((small, large, required)".toList
        "size".toList .enum
        "(small, large, required)".toList ∧
      IsBalancedFrom 0 "f(x)".toList ∧
      Spec.parse "shop" brokenCallSource =
        .ok brokenCallSpec ∧
      withCodes [.fieldInvalidType]
        brokenCallSpec.verify.issues = [] := by
  have hSize : OpenCallField
      "size: enum((small, large, required)".toList
      "size".toList .enum "(small, large, required)".toList :=
    ⟨⟨"size".toList, " enum((small, large, required)".toList,
      by decide⟩, by decide, by decide +kernel⟩
  have hPrompt : IsBalancedFrom 0 "f(x)".toList :=
    .plain (by decide) (.opening (.inl rfl)
      (.plain (by decide) (.closing (.inl rfl) .nil)))
  exact ⟨openCallField_mood, hSize, hPrompt,
    by decide +kernel, by decide +kernel⟩

end Blueprint
