import Blueprint.Entity
import Blueprint.Proofs.Source.Rows
import Blueprint.Proofs.Written.Modifiers

/-
  How entities are written, one field a line, and that their
  lines are read back.

  Main definitions:
    * `FieldForm`, `FieldForm.text`, `FieldForm.field`
    * `EntityForm`, `EntityForm.rows`, `EntityForm.entity`

  Main statements:
    * `FieldForm.ofText_text`
    * `EntityForm.linesFrom_rows`
    * `EntityForm.ofBlock_block`
-/

------------------------------------------------------------
-- Written Fields
------------------------------------------------------------

namespace Blueprint

open Text

/- A field with its type in a written form. -/
structure FieldForm where
  name : List Char
  type : TypeForm
  modifiers : Modifiers

namespace FieldForm

/- The type of a field and its modifiers, as written. -/
def specification (f : FieldForm) : List Char :=
  joinWith [',', ' ']
    (f.type.text :: f.modifiers.list.map Modifier.text)

/- A field as it is written. -/
def text (f : FieldForm) : List Char :=
  f.name ++ ':' :: ' ' :: f.specification

/- The row of a field, one level below its entity. -/
def row (f : FieldForm) : List Char :=
  indented 1 f.text

/- The field that is meant, at a line. -/
def field
    (f : FieldForm)
    (place : Location) : Field where
  name := String.ofList f.name
  type := f.type.type
  modifiers := f.modifiers
  location := place

/- A field has an identifier for a name, and writable parts. -/
structure IsWritable (f : FieldForm) : Prop where
  name : isIdentifier f.name = true
  type : f.type.IsWritable
  modifiers : ∀ m ∈ f.modifiers.list, m.IsWritable

/- The items of a field are solid. -/
theorem isSolid_item
    {f : FieldForm}
    (hWritable : f.IsWritable) :
    ∀ item ∈
        f.type.text :: f.modifiers.list.map Modifier.text,
      IsSolid item := by
  intro item hMem
  rcases List.mem_cons.mp hMem with rfl | hMem
  · exact TypeForm.isSolid_text hWritable.type
  · rcases List.mem_map.mp hMem with ⟨m, _, rfl⟩
    exact m.isSolid_text

/- What follows the name of a field is solid. -/
theorem isSolid_specification
    {f : FieldForm}
    (hWritable : f.IsWritable) :
    IsSolid f.specification :=
  isSolid_joinWith (List.cons_ne_nil _ _)
    (isSolid_item hWritable)

/- A written field is solid. -/
theorem isSolid_text
    {f : FieldForm}
    (hWritable : f.IsWritable) :
    IsSolid f.text := by
  have hName := isSolid_of_isIdentifier hWritable.name
  have hSolid :=
    hName.append (isSolid_specification hWritable) [':', ' ']
  rwa [List.append_assoc] at hSolid

/- A written field is on one line when its type is. -/
theorem not_mem_text
    {f : FieldForm}
    (hWritable : f.IsWritable)
    (hLine : f.type.IsOneLine) :
    '\n' ∉ f.text := by
  have hName : '\n' ∉ f.name :=
    not_mem_of_isIdentifier hWritable.name (by decide)
  have hSpecification : '\n' ∉ f.specification := by
    apply not_mem_joinWith (by decide)
    intro item hMem
    rcases List.mem_cons.mp hMem with rfl | hMem
    · exact TypeForm.not_mem_text hWritable.type hLine
    · rcases List.mem_map.mp hMem with ⟨m, hIn, rfl⟩
      exact Modifier.not_mem_text (hWritable.modifiers m hIn)
  simp [text, hName, hSpecification]

/- The line of a field's row. -/
theorem ofRow?_row
    {f : FieldForm}
    (number : Nat)
    (hWritable : f.IsWritable) :
    Line.ofRow? number f.row = some ⟨f.text, 1, number⟩ := by
  apply ofRow?_indented number 1 (isSolid_text hWritable)
  have hSome := isIdentifier_ne_nil hWritable.name
  rw [text, List.head?_append_of_ne_nil _ hSome]
  exact head?_ne_of_isIdentifier hWritable.name (by decide)

end FieldForm

end Blueprint

------------------------------------------------------------
-- Reading Fields Back
------------------------------------------------------------

namespace Blueprint

open Text

namespace FieldForm

variable {f : FieldForm}

/- Without modifiers there is no comma to cut at. -/
theorem cutTopLevel_specification_of_nil
    (hWritable : f.IsWritable)
    (hList : f.modifiers.list = []) :
    f.specification = f.type.text ∧
      cutTopLevel ',' f.specification = none := by
  have hText : f.specification = f.type.text := by
    rw [specification, hList]
    rfl
  have hScan := TypeForm.scans_text hWritable.type
  have hCut := hScan.cutTopLevelFrom_append []
  rw [List.append_nil] at hCut
  refine ⟨hText, ?_⟩
  rw [hText, cutTopLevel, hCut]
  rfl

/-
  With modifiers, the first comma that is neither in quotes
  nor in brackets stands between the type and them.
-/
theorem cutTopLevel_specification_of_cons
    (hWritable : f.IsWritable)
    (hList : f.modifiers.list ≠ []) :
    cutTopLevel ',' f.specification =
      some (f.type.text, ' ' :: joinWith [',', ' ']
        (f.modifiers.list.map Modifier.text)) := by
  have hScan := TypeForm.scans_text hWritable.type
  have hComma : ∀ rest : List Char,
      cutTopLevelFrom ',' .outermost (',' :: rest) =
        some ([], rest) :=
    fun rest => rfl
  cases hItems : f.modifiers.list.map Modifier.text with
  | nil => exact absurd (List.map_eq_nil_iff.mp hItems) hList
  | cons first more =>
      rw [specification, hItems, joinWith_cons_cons,
        List.append_assoc, cutTopLevel,
        hScan.cutTopLevelFrom_append]
      dsimp only [List.cons_append, List.nil_append]
      rw [hComma, Option.map_some, List.append_nil]

/- What follows the name of a field is read back. -/
theorem ofSpecification_specification
    (place : Location)
    (hWritable : f.IsWritable) :
    Field.ofSpecification place f.name f.specification =
      .ok (f.field place) := by
  have hType := TypeForm.ofText_text hWritable.type
  have hModifiers := Modifiers.ofText_list
    (String.ofList f.name) hWritable.modifiers
  unfold Field.ofSpecification
  by_cases hList : f.modifiers.list = []
  · rcases cutTopLevel_specification_of_nil hWritable hList
      with ⟨hText, hCut⟩
    rw [hList, List.map_nil, joinWith] at hModifiers
    rw [hCut, hText]
    dsimp only
    rw [hModifiers, hType]
    rfl
  · have hCut :=
      cutTopLevel_specification_of_cons hWritable hList
    have hSolid := TypeForm.isSolid_text hWritable.type
    have hRest : IsSolid (joinWith [',', ' ']
        (f.modifiers.list.map Modifier.text)) := by
      apply isSolid_joinWith (by simpa using hList)
      intro item hMem
      exact isSolid_item hWritable item
        (List.mem_cons_of_mem _ hMem)
    rw [hCut]
    dsimp only
    rw [hSolid.trim_eq, trim_cons_of_blank _ (by decide),
      hRest.trim_eq, hModifiers, hType]
    rfl

/- A written field is read back. -/
theorem ofText_text
    (place : Location)
    (hWritable : f.IsWritable) :
    Field.ofText place f.text = .ok (f.field place) := by
  have hName := isSolid_of_isIdentifier hWritable.name
  have hRest := isSolid_specification hWritable
  have hCut : cutAt (· == ':') f.text =
      some (f.name, ' ' :: f.specification) :=
    cutAt_identifier_append _ hWritable.name (by decide)
  have hSome : f.specification.isEmpty = false := by
    rw [List.isEmpty_eq_false_iff]
    exact hRest.ne_nil
  unfold Field.ofText
  rw [hCut]
  dsimp only
  rw [hName.trim_eq, trim_cons_of_blank _ (by decide),
    hRest.trim_eq, hWritable.name, hSome]
  exact ofSpecification_specification place hWritable

/- A written field is read back from its line. -/
theorem ofLine_text
    (file : String)
    (number : Nat)
    (hWritable : f.IsWritable) :
    Field.ofLine file ⟨f.text, 1, number⟩ =
      .ok (f.field ⟨file, number⟩) := by
  have hText := ofText_text ⟨file, number⟩ hWritable
  rw [Field.ofLine]
  dsimp only [Line.location]
  rw [hText]
  rfl

end FieldForm

end Blueprint

------------------------------------------------------------
-- Names and Bodies
------------------------------------------------------------

namespace Blueprint

open Text

/- Lines of one indent are even. -/
theorem checkEven_of_forall
    (file : String)
    (keyword : Keyword)
    {indent : Nat}
    {lines : List Line}
    (hLines : ∀ line ∈ lines, line.indent = indent) :
    checkEven file keyword lines = .ok () := by
  cases lines with
  | nil => rfl
  | cons first rest =>
      have hFirst := hLines first List.mem_cons_self
      have hNone : rest.find?
          (·.indent != first.indent) = none := by
        rw [List.find?_eq_none]
        intro line hMem
        have hSame :=
          hLines line (List.mem_cons_of_mem _ hMem)
        simp [hSame, hFirst]
      rw [checkEven, hNone]

/- An identifier is the name that it writes. -/
theorem readName_identifier
    (keyword : Keyword)
    {name : List Char}
    (hName : isIdentifier name = true) :
    readName keyword name = .ok (String.ofList name) := by
  have hSome : name.isEmpty = false := by
    rw [List.isEmpty_eq_false_iff]
    exact isIdentifier_ne_nil hName
  rw [readName, hSome, unquote?_identifier hName, hName]
  rfl

end Blueprint

------------------------------------------------------------
-- Written Entities
------------------------------------------------------------

namespace Blueprint

open Text

/- An entity with its fields in written forms. -/
structure EntityForm where
  name : List Char
  fields : List FieldForm

/- The fields that are meant, from a line on. -/
def fieldsFrom
    (file : String)
    (number : Nat) : List FieldForm → List Field
| [] => []
| f :: fields =>
    f.field ⟨file, number⟩ ::
      fieldsFrom file (number + 1) fields

namespace EntityForm

/- The head of an entity. -/
def head (e : EntityForm) : List Char :=
  "entity ".toList ++ e.name

/- The rows of the body. -/
def body (e : EntityForm) : List (List Char) :=
  e.fields.map FieldForm.row

/- All rows of an entity. -/
def rows (e : EntityForm) : List (List Char) :=
  e.head :: e.body

/- The entity that is meant, at a line. -/
def entity
    (e : EntityForm)
    (file : String)
    (number : Nat) : Entity where
  name := String.ofList e.name
  fields := fieldsFrom file (number + 1) e.fields
  location := ⟨file, number⟩

/- An entity has an identifier for a name, as its fields do. -/
structure IsWritable (e : EntityForm) : Prop where
  name : isIdentifier e.name = true
  fields : ∀ f ∈ e.fields, f.IsWritable

/- All fields of an entity are on one line each. -/
def IsOneLine (e : EntityForm) : Prop :=
  ∀ f ∈ e.fields, f.type.IsOneLine

/- The block of an entity that stands at a line. -/
def block
    (e : EntityForm)
    (number : Nat) : Block where
  head := ⟨e.head, 0, number⟩
  body := linesFrom (number + 1) e.body

variable {e : EntityForm}

/- The rows of an entity are the lines of its block. -/
theorem linesFrom_rows
    (number : Nat)
    (hWritable : e.IsWritable) :
    linesFrom number e.rows = (e.block number).lines := by
  have hEnd := isSolid_of_isIdentifier hWritable.name
  have hWord : isIdentifier "entity".toList = true := by
    decide
  have hStart := isSolid_of_isIdentifier hWord
  have hSolid : IsSolid e.head := hStart.append hEnd [' ']
  have hRow : Line.ofRow? number e.head =
      some ⟨e.head, 0, number⟩ :=
    ofRow?_indented number 0 hSolid
      (show some 'e' ≠ some '#' by decide)
  exact linesFrom_cons_of_ofRow? e.body hRow

/- The lines of a body are one level deep. -/
theorem indent_of_mem_body
    (number : Nat)
    (hWritable : e.IsWritable) :
    ∀ line ∈ (e.block number).body, line.indent = 1 :=
  indent_of_mem_linesFrom (number + 1) fun f hMem n =>
    FieldForm.ofRow?_row n (hWritable.fields f hMem)

/- Fields are at the lines that count up from the first. -/
theorem fieldsFrom_eq_mapIdx
    (file : String)
    (number : Nat)
    (fields : List FieldForm) :
    fieldsFrom file number fields =
      fields.mapIdx fun i f =>
        f.field ⟨file, number + i⟩ := by
  induction fields generalizing number with
  | nil => rfl
  | cons f fields ih =>
      have hLater : ∀ i, number + 1 + i = number + (i + 1) := by
        intro i
        omega
      rw [fieldsFrom, ih, List.mapIdx_cons]
      simp only [hLater, Nat.add_zero]

/- The fields of a body are read back line by line. -/
theorem mapM_ofLine_body
    (file : String)
    (number : Nat)
    (hWritable : e.IsWritable) :
    (e.block number).body.mapM (Field.ofLine file) =
      .ok (fieldsFrom file (number + 1) e.fields) := by
  rw [fieldsFrom_eq_mapIdx]
  exact mapM_linesFrom (number + 1)
    (fun f hMem n =>
      FieldForm.ofRow?_row n (hWritable.fields f hMem))
    (fun f hMem n =>
      FieldForm.ofLine_text file n (hWritable.fields f hMem))

/- A written entity is read back from its block. -/
theorem ofBlock_block
    (file : String)
    (number : Nat)
    (hWritable : e.IsWritable) :
    Entity.ofBlock file e.name (e.block number) =
      .ok (e.entity file number) := by
  have hEven := checkEven_of_forall file .entity
    (indent_of_mem_body number hWritable)
  have hFields := mapM_ofLine_body file number hWritable
  rw [Entity.ofBlock, readName_identifier _ hWritable.name,
    hEven, hFields]
  rfl

end EntityForm

end Blueprint
