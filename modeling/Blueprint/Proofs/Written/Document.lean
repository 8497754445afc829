import Blueprint.Proofs.Reading.Blockwise
import Blueprint.Proofs.Written.Entity

/-
  Written documents: a header over the rows of declarations.
  Whatever entities and fields are written down in one, they
  are read back as they are, each at its own line. Here and
  for the other written forms, lines that are counted in 32
  bits agree with these below 2^32 rows
  (`toNat_ofNat_significantLines_number`).

  Main definitions:
    * `headerText`, `documentText`
    * `DocumentForm`, `DocumentForm.text`
    * `DocumentForm.spec`

  Main statements:
    * `ofBlock_of_head`
    * `isCut_of_keyword`
    * `parse_documentText`
    * `DocumentForm.parse_text`
-/

------------------------------------------------------------
-- Written Headers
------------------------------------------------------------

namespace Blueprint

open Text

/- The header that names an app. -/
def headerText (appName : List Char) : List Char :=
  "app ".toList ++ inQuotes appName

/- A document with a header over its rows. -/
def documentText
    (appName : List Char)
    (rows : List (List Char)) : String :=
  String.ofList (joinWith ['\n'] (headerText appName :: rows))

variable {appName : List Char}

/- The name of the app is read back from the header. -/
theorem headerName?_headerText
    (hName : IsEscaped appName) :
    headerName? (headerText appName) = some appName := by
  have hQuoted := quoted?_inQuotes [] hName
  rw [List.append_nil] at hQuoted
  have hRead : headerName? (headerText appName) =
      (quoted? (inQuotes appName)).bind fun found =>
        if found.2.isEmpty then some found.1 else none :=
    rfl
  rw [hRead, hQuoted]
  rfl

/- The lines of a document are its header and its rows. -/
theorem significantLines_documentText
    {rows : List (List Char)}
    (hName : IsQuotable appName)
    (hRows : ∀ row ∈ rows, '\n' ∉ row) :
    significantLines (documentText appName rows) =
      ⟨headerText appName, 0, 1⟩ :: linesFrom 2 rows := by
  have hHeader : '\n' ∉ headerText appName := by
    have hQuoted : '\n' ∉ inQuotes appName :=
      not_mem_inQuotes (by decide) hName.2
    have hWord : '\n' ∉ "app ".toList := by decide
    exact List.not_mem_append hWord hQuoted
  have hSplit : Blueprint.rows
      (joinWith ['\n'] (headerText appName :: rows)) =
        headerText appName :: rows :=
    rows_joinWith (List.cons_ne_nil _ _)
      (List.forall_mem_cons.mpr ⟨hHeader, hRows⟩)
  have hSolid : IsSolid (headerText appName) := by
    have hWord : isIdentifier "app".toList = true := by
      decide
    exact (isSolid_of_isIdentifier hWord).append
      (isSolid_inQuotes appName) [' ']
  have hLine : Line.ofRow? 1 (headerText appName) =
      some ⟨headerText appName, 0, 1⟩ :=
    ofRow?_indented 1 0 hSolid
      (show some 'a' ≠ some '#' by decide)
  rw [significantLines, documentText, String.toList_ofList,
    hSplit, linesFrom_cons_of_ofRow? _ hLine]

end Blueprint

------------------------------------------------------------
-- Written Documents
------------------------------------------------------------

namespace Blueprint

open Text

/- An app and its entities in written forms. -/
structure DocumentForm where
  appName : List Char
  entities : List EntityForm

/- The entities that are meant, from a line on. -/
def entitiesFrom
    (file : String)
    (number : Nat) : List EntityForm → List Entity
| [] => []
| e :: entities =>
    e.entity file number ::
      entitiesFrom file (number + e.rows.length) entities

namespace DocumentForm

/- The header of a document. -/
def header (d : DocumentForm) : List Char :=
  "app ".toList ++ inQuotes d.appName

/- The rows of a document: its header, then its entities. -/
def rows (d : DocumentForm) : List (List Char) :=
  d.header :: d.entities.flatMap EntityForm.rows

/- A document as it is written. -/
def text (d : DocumentForm) : String :=
  String.ofList (joinWith ['\n'] d.rows)

/- The specification that is meant. -/
def spec
    (d : DocumentForm)
    (file : String) : Spec where
  appName := String.ofList d.appName
  entities := entitiesFrom file 2 d.entities
  screens := []
  flows := []
  rules := []
  integrations := []
  events := []

/- The app has a quotable name, and entities are writable. -/
structure IsWritable (d : DocumentForm) : Prop where
  appName : IsQuotable d.appName
  entities : ∀ e ∈ d.entities, e.IsWritable

/- All fields of a document are on one line each. -/
def IsOneLine (d : DocumentForm) : Prop :=
  ∀ e ∈ d.entities, e.IsOneLine

end DocumentForm

end Blueprint

------------------------------------------------------------
-- Blocks of Entities
------------------------------------------------------------

namespace Blueprint

open Text

/- A block is read by the keyword in front of its name. -/
theorem ofBlock_of_head
    {b : Block}
    {k : Keyword}
    {name : List Char}
    {number : Nat}
    (file : String)
    (hName : isIdentifier name = true)
    (hHead : b.head =
      ⟨k.word.toList ++ ' ' :: name, 0, number⟩) :
    Declaration.ofBlock file b =
      Declaration.ofKeyword file name b k := by
  have hSolid := isSolid_of_isIdentifier hName
  have hSplit : splitKeyword b.head.text =
      (k.word.toList, trim name) := by
    rw [hHead]
    cases k <;> rfl
  have hOpens : b.head.opens k = true := by
    rw [Line.opens, Line.keyword?, hSplit, hHead,
      String.ofList_toList, Keyword.ofWord?_word]
    simp
  rw [Declaration.ofBlock_of_opens hOpens, hSplit,
    hSolid.trim_eq]

/- The blocks of entities, from a line on. -/
def entityBlocks
    (number : Nat) : List EntityForm → List Block
| [] => []
| e :: entities =>
    e.block number ::
      entityBlocks (number + e.rows.length) entities

variable {entities : List EntityForm}

/- The rows of entities are cut into their blocks. -/
theorem isCut_entityBlocks
    (number : Nat)
    (hWritable : ∀ e ∈ entities, e.IsWritable) :
    IsCut 0
      (linesFrom number (entities.flatMap EntityForm.rows))
      (entityBlocks number entities) := by
  induction entities generalizing number with
  | nil => exact ⟨rfl, List.forall_mem_nil _, nofun⟩
  | cons e entities ih =>
      have hFirst := hWritable e List.mem_cons_self
      have hRest := ih (number + e.rows.length)
        fun other hMem =>
          hWritable other (List.mem_cons_of_mem _ hMem)
      have hBody :=
        EntityForm.indent_of_mem_body number hFirst
      have hHeads :
          ∀ b ∈ entityBlocks (number + e.rows.length) entities,
            b.head.indent ≤ 0 := by
        intro b hMem
        cases entities with
        | nil => cases hMem
        | cons second entities =>
            rcases List.mem_cons.mp hMem with rfl | hMem
            · exact Nat.le_refl 0
            · exact hRest.heads b hMem
      refine ⟨?_, ?_, hHeads⟩
      · rw [List.flatMap_cons, linesFrom_append,
          EntityForm.linesFrom_rows number hFirst,
          ← hRest.lines]
        rfl
      · intro b hMem line hLine
        rcases List.mem_cons.mp hMem with rfl | hMem
        · rw [hBody line hLine]
          exact Nat.one_pos
        · exact hRest.bodies b hMem line hLine

/- The block of an entity declares that entity. -/
theorem ofBlock_entityBlock
    {e : EntityForm}
    (file : String)
    (number : Nat)
    (hWritable : e.IsWritable) :
    Declaration.ofBlock file (e.block number) =
      .ok (.entity (e.entity file number)) := by
  have hHead : (e.block number).head =
      ⟨Keyword.entity.word.toList ++ ' ' :: e.name, 0,
        number⟩ :=
    rfl
  have hRead :=
    EntityForm.ofBlock_block file number hWritable
  rw [ofBlock_of_head file hWritable.name hHead,
    Declaration.ofKeyword, hRead]
  rfl

/- The blocks of entities declare them in order. -/
theorem map_ofBlock_entityBlocks
    (file : String)
    (number : Nat)
    (hWritable : ∀ e ∈ entities, e.IsWritable) :
    (entityBlocks number entities).map
        (Declaration.ofBlock file) =
      ((entitiesFrom file number entities).map
        Declaration.entity).map .ok := by
  induction entities generalizing number with
  | nil => rfl
  | cons e entities ih =>
      have hFirst := ofBlock_entityBlock file number
        (hWritable e List.mem_cons_self)
      have hRest := ih (number + e.rows.length)
        fun other hMem =>
          hWritable other (List.mem_cons_of_mem _ hMem)
      rw [entityBlocks, List.map_cons, hFirst, hRest]
      rfl

end Blueprint

------------------------------------------------------------
-- Reading Documents Back
------------------------------------------------------------

namespace Blueprint

open Text

/- Results without a fault are collected to all of them. -/
theorem collect_map_ok
    {α : Type}
    (items : List α) :
    collect (items.map .ok) = .ok items := by
  induction items with
  | nil => rfl
  | cons item items ih =>
      simp only [List.map_cons, collect, ih]

/- A keyword at the margin and deeper rows are one block. -/
theorem isCut_of_keyword
    (k : Keyword)
    (number : Nat)
    {rest : List Char}
    {rows : List (List Char)}
    (hRest : IsSolid rest)
    (hBody : ∀ line ∈ linesFrom (number + 1) rows,
      0 < line.indent) :
    IsCut 0
      (linesFrom number
        ((k.word.toList ++ ' ' :: rest) :: rows))
      [⟨⟨k.word.toList ++ ' ' :: rest, 0, number⟩,
        linesFrom (number + 1) rows⟩] where
  lines := by
    have hWord : isIdentifier k.word.toList = true := by
      cases k <;> decide
    have hSolid := (isSolid_of_isIdentifier hWord).append
      hRest [' ']
    rw [List.append_assoc] at hSolid
    have hMark : (k.word.toList ++ ' ' :: rest).head? ≠
        some '#' := by
      cases k <;> exact show some _ ≠ some '#' by decide
    have hFirst : Line.ofRow? number
        (k.word.toList ++ ' ' :: rest) =
          some ⟨k.word.toList ++ ' ' :: rest, 0, number⟩ :=
      ofRow?_indented number 0 hSolid hMark
    rw [linesFrom_cons_of_ofRow? _ hFirst]
    exact List.append_nil _
  bodies := by
    intro b hMem line hLine
    rw [List.mem_singleton.mp hMem] at hLine
    exact hBody line hLine
  heads := by
    intro b hMem
    cases hMem

/-
  A document is read as the declarations of the blocks that
  its rows are cut into.
-/
theorem parse_documentText
    {appName : List Char}
    {rows : List (List Char)}
    {bs : List Block}
    {declarations : List Declaration}
    (file : String)
    (hName : IsQuotable appName)
    (hRows : ∀ row ∈ rows, '\n' ∉ row)
    (hCut : IsCut 0 (linesFrom 2 rows) bs)
    (hRead : bs.map (Declaration.ofBlock file) =
      declarations.map .ok) :
    Spec.parse file (documentText appName rows) =
      .ok (Spec.ofDeclarations (String.ofList appName)
        declarations) := by
  have hHeader := headerName?_headerText hName.1
  rw [Spec.parse, significantLines_documentText hName hRows,
    ofLines_cons hHeader rfl, ← hCut.eq_blocks, hRead,
    collect_map_ok]
  rfl

/- Declarations of entities make up their specification. -/
theorem Spec.ofDeclarations_map_entity
    (appName : String)
    (entities : List Entity) :
    ofDeclarations appName (entities.map .entity) =
      ⟨appName, entities, [], [], [], [], []⟩ := by
  unfold ofDeclarations
  induction entities with
  | nil => rfl
  | cons e entities ih =>
      rw [List.map_cons, List.foldr_cons, ih]
      rfl

namespace DocumentForm

variable {d : DocumentForm}

/- No row below the header of a document holds a line feed. -/
theorem not_mem_row
    (hWritable : d.IsWritable)
    (hLine : d.IsOneLine) :
    ∀ row ∈ d.entities.flatMap EntityForm.rows,
      '\n' ∉ row := by
  intro row hMem
  rcases List.mem_flatMap.mp hMem with ⟨e, hEntity, hRow⟩
  have hFields := hWritable.entities e hEntity
  rcases List.mem_cons.mp hRow with rfl | hRow
  · have hName : '\n' ∉ e.name :=
      not_mem_of_isIdentifier hFields.name (by decide)
    have hWord : '\n' ∉ "entity ".toList := by decide
    exact List.not_mem_append hWord hName
  · rcases List.mem_map.mp hRow with ⟨f, hField, rfl⟩
    have hText := FieldForm.not_mem_text
      (hFields.fields f hField)
      (hLine e hEntity f hField)
    exact not_mem_indented 1 hText

/-
  A written document is read back: exactly its entities,
  with their types, their modifiers and their lines.
-/
theorem parse_text
    (file : String)
    (hWritable : d.IsWritable)
    (hLine : d.IsOneLine) :
    Spec.parse file d.text = .ok (d.spec file) := by
  have hCut := isCut_entityBlocks 2 hWritable.entities
  have hRead :=
    map_ofBlock_entityBlocks file 2 hWritable.entities
  have hParse := parse_documentText file hWritable.appName
    (not_mem_row hWritable hLine) hCut hRead
  rw [Spec.ofDeclarations_map_entity] at hParse
  exact hParse

/- A size that is small, or in quotes with a comma. -/
def sizeForm : FieldForm where
  name := "size".toList
  type := .enum
    [.word "small".toList, .quoted "extra, large".toList]
  modifiers := { required := true, min := some (-5) }

/- A prompt with delimiters, and an escaped quote. -/
def noteForm : FieldForm where
  name := "note".toList
  type := .ai "a: b, c → d".toList
  modifiers := { default := some "\\\"e = f, # g" }

/- An expression with a lone bracket in quotes. -/
def totalForm : FieldForm where
  name := "total".toList
  type := .computed ("sum".toList ++ '(' ::
    (inQuotes "(".toList ++ [')']))
  modifiers := {}

/- A document with these fields in one entity. -/
def itemDocument : DocumentForm where
  appName := "Shop".toList
  entities :=
    [⟨"Item".toList, [sizeForm, noteForm, totalForm]⟩]

/- How the document is written. -/
example :
    itemDocument.text =
      "app \"Shop\"\nentity Item\n" ++
      "  size: enum(small, \"extra, large\"), " ++
      "required, min=-5\n" ++
      "  note: ai(\"a: b, c → d\"), " ++
      "default=\"\\\"e = f, # g\"\n" ++
      "  total: computed(sum(\"(\"))" := by
  decide +kernel

/- The values and bounds of the size can be written. -/
theorem isWritable_sizeForm : sizeForm.IsWritable where
  name := by decide
  type := by
    intro v hMem
    rcases List.mem_cons.mp hMem with rfl | hMem
    · show isIdentifier "small".toList = true
      decide
    · rw [List.mem_singleton.mp hMem]
      exact ⟨by decide,
        isEscaped_of_not_mem (by decide) (by decide),
        by decide⟩
  modifiers := by
    intro m hMem
    rcases List.mem_cons.mp hMem with rfl | hMem
    · exact trivial
    · rw [List.mem_singleton.mp hMem]
      exact trivial

/- The prompt and the default of the note can be written. -/
theorem isWritable_noteForm : noteForm.IsWritable where
  name := by decide
  type :=
    ⟨isEscaped_of_not_mem (by decide) (by decide),
      by decide⟩
  modifiers := by
    have hPlain : IsEscaped "e = f, # g".toList :=
      isEscaped_of_not_mem (by decide) (by decide)
    intro m hMem
    rw [List.mem_singleton.mp hMem]
    exact ⟨.escape '"' hPlain, by decide⟩

/- The expression of the total can be written. -/
theorem isWritable_totalForm : totalForm.IsWritable where
  name := by decide
  type := by
    have hPlain : ∀ c ∈ "sum".toList, IsPlain c := by
      simp [IsPlain]
    have hBracket : IsEscaped "(".toList :=
      isEscaped_of_not_mem (by decide) (by decide)
    have hCall : IsBalancedFrom 0 ('(' ::
        (inQuotes "(".toList ++ [')'])) :=
      .opening (.inl rfl)
        (.inQuotes hBracket (.closing (.inl rfl) .nil))
    exact ⟨by decide, isBalancedFrom_append hPlain hCall⟩
  modifiers := List.forall_mem_nil _

/- The document with these fields is read back. -/
theorem parse_text_itemDocument :
    Spec.parse "shop" itemDocument.text =
      .ok (itemDocument.spec "shop") := by
  have hFields : ∀ f ∈ [sizeForm, noteForm, totalForm],
      f.IsWritable := by
    rintro f (_ | ⟨_, _ | ⟨_, _ | ⟨_, hNone⟩⟩⟩)
    · exact isWritable_sizeForm
    · exact isWritable_noteForm
    · exact isWritable_totalForm
    · cases hNone
  have hWritable : itemDocument.IsWritable := by
    refine ⟨⟨isEscaped_of_not_mem (by decide) (by decide),
      by decide⟩, ?_⟩
    intro e hMem
    rw [List.mem_singleton.mp hMem]
    exact ⟨by decide, hFields⟩
  have hLine : itemDocument.IsOneLine := by
    intro e hMem
    rw [List.mem_singleton.mp hMem]
    rintro f (_ | ⟨_, _ | ⟨_, _ | ⟨_, hNone⟩⟩⟩)
    · exact trivial
    · exact trivial
    · show '\n' ∉ _
      decide
    · cases hNone
  exact DocumentForm.parse_text "shop" hWritable hLine

/- A document whose expression runs over a line. -/
def brokenDocument : DocumentForm where
  appName := "T".toList
  entities :=
    [⟨"A".toList,
      [⟨"x".toList, .computed "a\nb".toList, {}⟩]⟩]

/-
  Without the condition on lines, the rest of an expression
  is taken for a declaration of its own.
-/
theorem parse_text_brokenDocument :
    brokenDocument.IsWritable ∧
      brokenDocument.text =
        "app \"T\"\nentity A\n  x: computed(a\nb)" ∧
      Spec.parse "t" brokenDocument.text =
        .error [⟨⟨"t", 4⟩, .unknownKeyword "b)"⟩] ∧
      Spec.parse "t" brokenDocument.text ≠
        .ok (brokenDocument.spec "t") := by
  have hPlain : ∀ c ∈ "a\nb".toList, IsPlain c := by
    simp [IsPlain]
  have hBalanced : IsBalancedFrom 0 "a\nb".toList :=
    isBalancedFrom_append hPlain .nil
  have hField : FieldForm.IsWritable
      ⟨"x".toList, .computed "a\nb".toList, {}⟩ :=
    ⟨by decide, ⟨by decide, hBalanced⟩, List.forall_mem_nil _⟩
  have hWritable : brokenDocument.IsWritable := by
    refine ⟨⟨isEscaped_of_not_mem (by decide) (by decide),
      by decide⟩, ?_⟩
    intro e hMem
    rw [List.mem_singleton.mp hMem]
    refine ⟨by decide, ?_⟩
    intro f hMem
    rw [List.mem_singleton.mp hMem]
    exact hField
  have hParse : Spec.parse "t" brokenDocument.text =
      .error [⟨⟨"t", 4⟩, .unknownKeyword "b)"⟩] := by
    rfl
  refine ⟨hWritable, by decide +kernel, hParse, ?_⟩
  rw [hParse]
  intro hSame
  cases hSame

end DocumentForm

end Blueprint
