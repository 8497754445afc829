import Blueprint.Proofs.Places.Parts
import Blueprint.Proofs.Reading.Blockwise

/-
  The places of a document that was read are its lines: a
  declaration stands at the head of its block, and its parts
  stand at the lines below the head that declare them.

  Main definitions:
    * `Declaration.DeclaredAt`
    * `Declaration.IsAtLines`
    * `Spec.DeclaresAt`

  Main statements:
    * `Declaration.isAtLines_of_ofBlock`
    * `Spec.exists_line_of_mem_places`
-/

------------------------------------------------------------
-- Readings Taken Apart
------------------------------------------------------------

namespace Blueprint

variable {ε α β : Type}

/- A reading made of two gives what both of them give. -/
theorem exists_of_bind_eq_ok
    {result : Except ε α}
    {next : α → Except ε β}
    {b : β}
    (h : result >>= next = .ok b) :
    ∃ a, result = .ok a ∧ next a = .ok b := by
  cases result with
  | error _ => cases h
  | ok a => exact ⟨a, rfl, h⟩

/- A line that is read gives what its text gives. -/
theorem eq_ok_of_blame
    {result : Except Cause α}
    {file : String}
    {line : Line}
    {a : α}
    (h : line.blame file result = .ok a) :
    result = .ok a := by
  cases result with
  | error _ => cases h
  | ok b =>
      cases h
      rfl

/- Every item was read from one of the sources. -/
def ReadFrom
    (read : α → Except ε β)
    (sources : List α)
    (items : List β) : Prop :=
  ∀ item ∈ items, ∃ source ∈ sources, read source = .ok item

variable {read : α → Except ε β}
variable {sources : List α}
variable {items : List β}

/- Reading one by one gives one item for each source. -/
theorem forall₂_of_mapM
    (h : sources.mapM read = .ok items) :
    List.Forall₂ (fun source item => read source = .ok item)
      sources items := by
  induction sources generalizing items with
  | nil =>
      cases h
      exact .nil
  | cons source sources ih =>
      rw [List.mapM_cons] at h
      obtain ⟨first, hFirst, hRest⟩ := exists_of_bind_eq_ok h
      obtain ⟨rest, hMap, hAll⟩ := exists_of_bind_eq_ok hRest
      cases hAll
      exact .cons hFirst (ih hMap)

/- Reading one by one gives items that come from the list. -/
theorem readFrom_of_mapM
    (h : sources.mapM read = .ok items) :
    ReadFrom read sources items :=
  exists_source_of_forall₂ (forall₂_of_mapM h)

end Blueprint

------------------------------------------------------------
-- Parts of One Declaration
------------------------------------------------------------

namespace Blueprint

namespace Declaration

/- The places of a declaration and of its parts. -/
def places : Declaration → List Location
| .entity e => e.places
| .screen s => s.places
| .flow f => f.places
| .rule r => [r.location]
| .integration i => [i.location]
| .event e => [e.location]

/-
  A line of a block declares what the block gives, or a part
  of it: the head declares it as a whole, the lines below an
  entity or a flow declare its fields or steps, and the
  lines below the properties `steps` and `widgets` of a
  screen declare its steps and widgets.
-/
inductive DeclaredAt
    (file : String)
    (b : Block) : Declaration → Line → Prop
| head
    {d : Declaration} :
    DeclaredAt file b d b.head
| field
    {e : Entity}
    {f : Field}
    {line : Line}
    (below : line ∈ b.body)
    (part : f ∈ e.fields)
    (read : Field.ofLine file line = .ok f) :
    DeclaredAt file b (.entity e) line
| flowStep
    {f : Flow}
    {step : FlowStep}
    {line : Line}
    (below : line ∈ b.body)
    (part : step ∈ f.steps)
    (read : FlowStep.ofLine file line = .ok step) :
    DeclaredAt file b (.flow f) line
| wizardStep
    {s : Screen}
    {step : WizardStep}
    {property : Block}
    {line : Line}
    (among :
      property ∈ blocks (Screen.bodyLevel b.body) b.body)
    (key :
      property? property.head.text = some ("steps".toList, []))
    (below : line ∈ property.body)
    (part : step ∈ s.steps)
    (read : WizardStep.ofLine file line = .ok step) :
    DeclaredAt file b (.screen s) line
| widget
    {s : Screen}
    {w : Widget}
    {property : Block}
    {line : Line}
    (among :
      property ∈ blocks (Screen.bodyLevel b.body) b.body)
    (key :
      property? property.head.text =
        some ("widgets".toList, []))
    (below : line ∈ property.body)
    (part : w ∈ s.widgets)
    (read : Widget.ofLine file line = .ok w) :
    DeclaredAt file b (.screen s) line

variable {file : String}
variable {b : Block}

/- A line that declares a part is a line of the block. -/
theorem DeclaredAt.mem_lines
    {d : Declaration}
    {line : Line}
    (h : DeclaredAt file b d line) :
    line ∈ b.lines := by
  have hNested :
      ∀ property ∈ blocks (Screen.bodyLevel b.body) b.body,
        property.body ⊆ b.lines := by
    intro property hProperty other hBelow
    apply b.body_subset_lines
    rw [← flatMap_lines_blocks
      (Screen.bodyLevel b.body) b.body]
    exact List.mem_flatMap.mpr
      ⟨property, hProperty, property.body_subset_lines hBelow⟩
  cases h with
  | head => exact b.head_mem_lines
  | field below => exact b.body_subset_lines below
  | flowStep below => exact b.body_subset_lines below
  | wizardStep among _ below => exact hNested _ among below
  | widget among _ below => exact hNested _ among below

/- Every place of a declaration is a line that declares it. -/
def IsAtLines
    (file : String)
    (b : Block)
    (d : Declaration) : Prop :=
  ∀ l ∈ d.places,
    ∃ line, DeclaredAt file b d line ∧
      l = line.location file

/- A declaration without parts stands at its head. -/
theorem isAtLines_of_singleton
    {d : Declaration}
    (hPlaces : d.places = [d.location])
    (hPlace : d.location = b.head.location file) :
    IsAtLines file b d := by
  intro l hMem
  rw [hPlaces, List.mem_singleton] at hMem
  exact ⟨b.head, .head, hMem.trans hPlace⟩

end Declaration

end Blueprint

------------------------------------------------------------
-- Entities and Flows
------------------------------------------------------------

namespace Blueprint

variable {file : String}
variable {rest : List Char}
variable {b : Block}

/- A field stands at the line that it was read from. -/
theorem Field.location_of_ofLine
    {line : Line}
    {f : Field}
    (h : Field.ofLine file line = .ok f) :
    f.location = line.location file := by
  have hText := eq_ok_of_blame h
  unfold Field.ofText at hText
  split at hText
  · cases hText
  · dsimp only at hText
    split at hText
    · cases hText
    · split at hText
      · cases hText
      · obtain ⟨modifiers, _, hField⟩ :=
          exists_of_bind_eq_ok hText
        cases hField
        rfl

/- A step stands at the line that it was read from. -/
theorem FlowStep.location_of_ofLine
    {line : Line}
    {step : FlowStep}
    (h : FlowStep.ofLine file line = .ok step) :
    step.location = line.location file := by
  have hText := eq_ok_of_blame h
  unfold FlowStep.ofText at hText
  split at hText
  · cases hText
  · split at hText
    · cases hText
    · cases hText
      rfl

/-
  The name of a flat block is read from its head, and the
  items are read from its body.
-/
theorem exists_of_flatBlock
    {α β : Type}
    {keyword : Keyword}
    {read : Line → Except Fault α}
    {build : String → List α → β}
    {result : β}
    (h : (do
      let name ← b.head.blame file (readName keyword rest)
      checkEven file keyword b.body
      let items ← b.body.mapM read
      return build name items) = Except.ok result) :
    ∃ name items, readName keyword rest = .ok name ∧
      b.body.mapM read = .ok items ∧
        result = build name items := by
  obtain ⟨name, hName, hBody⟩ := exists_of_bind_eq_ok h
  obtain ⟨_, _, hItems⟩ := exists_of_bind_eq_ok hBody
  obtain ⟨items, hMap, hBuild⟩ := exists_of_bind_eq_ok hItems
  cases hBuild
  exact ⟨name, items, eq_ok_of_blame hName, hMap, rfl⟩

/- The places of an entity are the lines of its block. -/
theorem Entity.isAtLines_of_ofBlock
    {e : Entity}
    (h : Entity.ofBlock file rest b = .ok e) :
    Declaration.IsAtLines file b (.entity e) := by
  obtain ⟨name, fields, _, hMap, rfl⟩ := exists_of_flatBlock h
  have hRead := readFrom_of_mapM hMap
  intro l hMem
  rcases List.mem_cons.mp hMem with rfl | hPart
  · exact ⟨b.head, .head, rfl⟩
  · rcases List.mem_map.mp hPart with ⟨f, hField, rfl⟩
    rcases hRead f hField with ⟨line, hBelow, hLine⟩
    exact ⟨line, .field hBelow hField hLine,
      Field.location_of_ofLine hLine⟩

/- The places of a flow are the lines of its block. -/
theorem Flow.isAtLines_of_ofBlock
    {f : Flow}
    (h : Flow.ofBlock file rest b = .ok f) :
    Declaration.IsAtLines file b (.flow f) := by
  obtain ⟨name, steps, _, hMap, rfl⟩ := exists_of_flatBlock h
  have hRead := readFrom_of_mapM hMap
  intro l hMem
  rcases List.mem_cons.mp hMem with rfl | hPart
  · exact ⟨b.head, .head, rfl⟩
  · rcases List.mem_map.mp hPart with ⟨step, hStep, rfl⟩
    rcases hRead step hStep with ⟨line, hBelow, hLine⟩
    exact ⟨line, .flowStep hBelow hStep hLine,
      FlowStep.location_of_ofLine hLine⟩

end Blueprint

------------------------------------------------------------
-- Screens
------------------------------------------------------------

namespace Blueprint

variable {file : String}
variable {rest : List Char}
variable {b : Block}

/- A wizard step stands at the line that it was read from. -/
theorem WizardStep.location_of_ofLine
    {line : Line}
    {step : WizardStep}
    (h : WizardStep.ofLine file line = .ok step) :
    step.location = line.location file := by
  have hText := eq_ok_of_blame h
  split at hText
  · cases hText
  · obtain ⟨fields, _, hStep⟩ := exists_of_bind_eq_ok hText
    cases hStep
    rfl

/- A widget stands at the line that it was read from. -/
theorem Widget.location_of_ofLine
    {line : Line}
    {w : Widget}
    (h : Widget.ofLine file line = .ok w) :
    w.location = line.location file := by
  have hText := eq_ok_of_blame h
  split at hText
  · cases hText
  · cases hText
    rfl

namespace ScreenProperty

/-
  What a property with nested lines gives was read from the
  lines below its key.
-/
def IsReadFrom
    (file : String)
    (b : Block) : ScreenProperty → Prop
| .steps items =>
    property? b.head.text = some ("steps".toList, []) ∧
      ReadFrom (WizardStep.ofLine file) b.body items
| .widgets items =>
    property? b.head.text = some ("widgets".toList, []) ∧
      ReadFrom (Widget.ofLine file) b.body items
| .kind _ => True
| .entity _ => True
| .action _ => True
| .fields _ => True
| .filters _ => True
| .actions _ => True

/- A key with nested lines has no value of its own. -/
theorem eq_nil_of_checkNoValue
    {key : String}
    {value : List Char}
    {u : Unit}
    (h : checkNoValue key value = .ok u) :
    value = [] := by
  unfold checkNoValue at h
  split at h
  · rename_i hEmpty
    exact List.isEmpty_iff.mp hEmpty
  · cases h

/- The key and the nested lines of a property were read. -/
theorem isReadFrom_of_ofParts
    {key value : List Char}
    {property : ScreenProperty}
    (hKey : property? b.head.text = some (key, value))
    (h : ofParts file (String.ofList key) value b =
      .ok property) :
    property.IsReadFrom file b := by
  have hPlain : ∀ {build : List String → ScreenProperty},
      (readList value).map build = .ok property →
        ∃ names, build names = property := by
    intro build hMap
    cases hList : readList value with
    | error _ =>
        rw [hList] at hMap
        cases hMap
    | ok names =>
        rw [hList] at hMap
        cases hMap
        exact ⟨names, rfl⟩
  have hText : ∀ {word : String},
      String.ofList key = word → key = word.toList := by
    rintro word rfl
    rw [String.toList_ofList]
  unfold ofParts at h
  dsimp only at h
  split at h
  case h_1 | h_2 | h_3 =>
      cases h
      exact trivial
  case h_4 | h_5 | h_6 =>
      obtain ⟨names, rfl⟩ := hPlain (eq_ok_of_blame h)
      exact trivial
  case h_7 hWord | h_8 hWord =>
      obtain ⟨u, hNone, hRest⟩ := exists_of_bind_eq_ok h
      obtain ⟨items, hMap, hAll⟩ := exists_of_bind_eq_ok hRest
      cases hAll
      have hEmpty :=
        eq_nil_of_checkNoValue (eq_ok_of_blame hNone)
      rw [hEmpty, hText hWord] at hKey
      exact ⟨hKey, readFrom_of_mapM hMap⟩
  case h_9 => cases h

/- A property that was read has a key on its own line. -/
theorem exists_parts_of_ofBlock
    {screen : String}
    {level : Nat}
    {p : ScreenProperty}
    (h : ofBlock file screen level b = .ok p) :
    ∃ key value, property? b.head.text = some (key, value) ∧
      ofParts file (String.ofList key) value b = .ok p := by
  unfold ofBlock at h
  dsimp only at h
  split at h
  · cases h
  · split at h
    · cases h
    · rename_i key value hKey
      refine ⟨key, value, hKey, ?_⟩
      split at h
      · exact h
      · split at h
        · exact h
        · cases h

theorem isReadFrom_of_ofBlock
    {screen : String}
    {level : Nat}
    {property : ScreenProperty}
    (h : ofBlock file screen level b = .ok property) :
    property.IsReadFrom file b := by
  rcases exists_parts_of_ofBlock h with
    ⟨key, value, hKey, hParts⟩
  exact isReadFrom_of_ofParts hKey hParts

end ScreenProperty

namespace ScreenParts

/- A step that was set is one of those before or added. -/
theorem mem_steps_foldl_set
    {properties : List ScreenProperty}
    {parts : ScreenParts}
    {step : WizardStep}
    (h : step ∈ (properties.foldl set parts).steps) :
    step ∈ parts.steps ∨
      ∃ steps, .steps steps ∈ properties ∧ step ∈ steps := by
  induction properties generalizing parts with
  | nil => exact .inl h
  | cons property properties ih =>
      rcases ih h with hBefore | ⟨steps, hLater, hStep⟩
      · cases property with
        | steps items =>
            exact .inr ⟨items, List.mem_cons_self, hBefore⟩
        | _ => exact .inl hBefore
      · exact .inr
          ⟨steps, List.mem_cons_of_mem _ hLater, hStep⟩

/- A widget that was set is one of those before or added. -/
theorem mem_widgets_foldl_set
    {properties : List ScreenProperty}
    {parts : ScreenParts}
    {w : Widget}
    (h : w ∈ (properties.foldl set parts).widgets) :
    w ∈ parts.widgets ∨
      ∃ widgets, .widgets widgets ∈ properties ∧
        w ∈ widgets := by
  induction properties generalizing parts with
  | nil => exact .inl h
  | cons property properties ih =>
      rcases ih h with hBefore | ⟨widgets, hLater, hWidget⟩
      · cases property with
        | widgets items =>
            exact .inr ⟨items, List.mem_cons_self, hBefore⟩
        | _ => exact .inl hBefore
      · exact .inr
          ⟨widgets, List.mem_cons_of_mem _ hLater, hWidget⟩

end ScreenParts

namespace Screen

variable {s : Screen}
variable {name : String}
variable {properties : List ScreenProperty}

/- A wizard step stands below the key of the steps. -/
theorem exists_line_of_mem_steps
    (hRead : ReadFrom
      (ScreenProperty.ofBlock file name (bodyLevel b.body))
      (blocks (bodyLevel b.body) b.body) properties)
    (hSteps :
      s.steps = (properties.foldl ScreenParts.set {}).steps)
    {step : WizardStep}
    (hStep : step ∈ s.steps) :
    ∃ line, Declaration.DeclaredAt file b (.screen s) line ∧
      step.location = line.location file := by
  have hSet := hSteps ▸ hStep
  rcases ScreenParts.mem_steps_foldl_set hSet with
    hNone | ⟨steps, hProperty, hIn⟩
  · cases hNone
  · rcases hRead _ hProperty with ⟨inner, hAmong, hInner⟩
    obtain ⟨hKey, hLines⟩ :=
      ScreenProperty.isReadFrom_of_ofBlock hInner
    rcases hLines step hIn with ⟨line, hBelow, hLine⟩
    exact ⟨line,
      .wizardStep hAmong hKey hBelow hStep hLine,
      WizardStep.location_of_ofLine hLine⟩

/- A widget stands below the key of the widgets. -/
theorem exists_line_of_mem_widgets
    (hRead : ReadFrom
      (ScreenProperty.ofBlock file name (bodyLevel b.body))
      (blocks (bodyLevel b.body) b.body) properties)
    (hWidgets :
      s.widgets =
        (properties.foldl ScreenParts.set {}).widgets)
    {w : Widget}
    (hWidget : w ∈ s.widgets) :
    ∃ line, Declaration.DeclaredAt file b (.screen s) line ∧
      w.location = line.location file := by
  have hSet := hWidgets ▸ hWidget
  rcases ScreenParts.mem_widgets_foldl_set hSet with
    hNone | ⟨widgets, hProperty, hIn⟩
  · cases hNone
  · rcases hRead _ hProperty with ⟨inner, hAmong, hInner⟩
    obtain ⟨hKey, hLines⟩ :=
      ScreenProperty.isReadFrom_of_ofBlock hInner
    rcases hLines w hIn with ⟨line, hBelow, hLine⟩
    exact ⟨line,
      .widget hAmong hKey hBelow hWidget hLine,
      Widget.location_of_ofLine hLine⟩

/- The places of a screen are the lines of its block. -/
theorem isAtLines_of_ofBlock
    (h : Screen.ofBlock file rest b = .ok s) :
    Declaration.IsAtLines file b (.screen s) := by
  unfold Screen.ofBlock at h
  obtain ⟨name, _, hBody⟩ := exists_of_bind_eq_ok h
  obtain ⟨properties, hMap, hScreen⟩ :=
    exists_of_bind_eq_ok hBody
  have hRead := readFrom_of_mapM hMap
  dsimp only at hScreen
  split at hScreen
  case h_2 => cases hScreen
  case h_1 built hBuilt =>
      cases hScreen
      rcases Option.map_eq_some_iff.mp hBuilt with
        ⟨kind, _, rfl⟩
      intro l hMem
      rcases List.mem_cons.mp hMem with rfl | hPart
      · exact ⟨b.head, .head, rfl⟩
      · rcases List.mem_append.mp hPart with hStep | hWidget
        · rcases List.mem_map.mp hStep with ⟨step, hIn, rfl⟩
          exact exists_line_of_mem_steps hRead rfl hIn
        · rcases List.mem_map.mp hWidget with ⟨w, hIn, rfl⟩
          exact exists_line_of_mem_widgets hRead rfl hIn

end Screen

end Blueprint

------------------------------------------------------------
-- Declarations
------------------------------------------------------------

namespace Blueprint

variable {file : String}
variable {b : Block}

namespace Declaration

/- A reading that is packed up gives what was read. -/
theorem exists_of_map_eq_ok
    {ε α β : Type}
    {result : Except ε α}
    {f : α → β}
    {c : β}
    (h : result.map f = .ok c) :
    ∃ a, result = .ok a ∧ f a = c := by
  cases result with
  | error _ => cases h
  | ok a =>
      cases h
      exact ⟨a, rfl, rfl⟩

/- What a keyword opens stands at the lines of its block. -/
theorem isAtLines_of_ofKeyword
    {rest : List Char}
    {k : Keyword}
    {d : Declaration}
    (h : ofKeyword file rest b k = .ok d) :
    IsAtLines file b d := by
  have hPlace := (gives_ofKeyword rest b k d h).2
  cases k with
  | entity =>
      obtain ⟨e, hEntity, rfl⟩ := exists_of_map_eq_ok h
      exact Entity.isAtLines_of_ofBlock hEntity
  | screen =>
      obtain ⟨s, hScreen, rfl⟩ := exists_of_map_eq_ok h
      exact Screen.isAtLines_of_ofBlock hScreen
  | flow =>
      obtain ⟨f, hFlow, rfl⟩ := exists_of_map_eq_ok h
      exact Flow.isAtLines_of_ofBlock hFlow
  | rule | integration | event =>
      obtain ⟨_, _, rfl⟩ := exists_of_map_eq_ok h
      exact isAtLines_of_singleton rfl hPlace

/- What a block gives stands at the lines of the block. -/
theorem isAtLines_of_ofBlock
    {d : Declaration}
    (h : ofBlock file b = .ok d) :
    IsAtLines file b d := by
  unfold ofBlock at h
  dsimp only at h
  split at h
  · cases h
  · split at h
    · exact isAtLines_of_ofKeyword h
    · split at h <;> cases h

end Declaration

end Blueprint

------------------------------------------------------------
-- Documents
------------------------------------------------------------

namespace Blueprint

namespace Spec

/- A place is a place of some declaration. -/
theorem exists_declaration_of_mem_places
    {spec : Spec}
    {l : Location}
    (h : l ∈ spec.places) :
    ∃ d : Declaration,
      d ∈ spec.ofKind d.keyword ∧ l ∈ d.places := by
  rcases mem_places_iff.mp h with
    ⟨e, hMem, hPlace⟩ | ⟨s, hMem, hPlace⟩ |
      ⟨f, hMem, hPlace⟩ | ⟨r, hMem, rfl⟩ |
      ⟨i, hMem, rfl⟩ | ⟨e, hMem, rfl⟩
  · exact ⟨.entity e, List.mem_map_of_mem hMem, hPlace⟩
  · exact ⟨.screen s, List.mem_map_of_mem hMem, hPlace⟩
  · exact ⟨.flow f, List.mem_map_of_mem hMem, hPlace⟩
  · exact ⟨.rule r, List.mem_map_of_mem hMem,
      List.mem_singleton_self _⟩
  · exact ⟨.integration i, List.mem_map_of_mem hMem,
      List.mem_singleton_self _⟩
  · exact ⟨.event e, List.mem_map_of_mem hMem,
      List.mem_singleton_self _⟩

/-
  A line declares a declaration of the specification or a
  part of one: it is a line of a block that starts with the
  keyword of the declaration and stands where the
  declaration does.
-/
structure DeclaresAt
    (file : String)
    (lines : List Line)
    (spec : Spec)
    (line : Line)
    (b : Block)
    (d : Declaration) : Prop where
  block : b ∈ blocks 0 lines
  opens : b.head.opens d.keyword = true
  place : d.location = b.head.location file
  declared : d ∈ spec.ofKind d.keyword
  part : d.DeclaredAt file b line

variable {file source : String}
variable {spec : Spec}

/- Every place is at a line below the header that declares it. -/
theorem exists_line_of_mem_places
    (h : parse file source = .ok spec)
    {l : Location}
    (hPlace : l ∈ spec.places) :
    ∃ line ∈ (significantLines source).tail,
      l = line.location file ∧
        ∃ b d, spec.DeclaresAt file
          (significantLines source).tail line b d := by
  obtain ⟨header, name, lines, hLines, _, _, rfl⟩ :=
    exists_of_parse_eq_ok h
  obtain ⟨d, hDeclared, hPart⟩ :=
    exists_declaration_of_mem_places hPlace
  have hValue : d ∈ valuesOf (blockResults file lines) := by
    rw [ofKind_ofDeclarations] at hDeclared
    exact (List.mem_filter.mp hDeclared).1
  rcases List.mem_filterMap.mp hValue with
    ⟨result, hResult, hSome⟩
  rcases List.mem_map.mp hResult with ⟨b, hBlock, rfl⟩
  have hRead : Declaration.ofBlock file b = .ok d := by
    cases hOf : Declaration.ofBlock file b with
    | error fault =>
        rw [hOf] at hSome
        cases hSome
    | ok other =>
        rw [hOf] at hSome
        cases hSome
        rfl
  have hGives := Declaration.gives_ofBlock b d hRead
  obtain ⟨line, hAt, hLocation⟩ :=
    Declaration.isAtLines_of_ofBlock hRead l hPart
  rw [hLines, List.tail_cons]
  refine ⟨line, ?_, hLocation, b, d, ?_⟩
  · rw [← flatMap_lines_blocks 0 lines]
    exact List.mem_flatMap.mpr ⟨b, hBlock, hAt.mem_lines⟩
  · exact
      { block := hBlock
        opens := by simp [hGives.2]
        place := hGives.1
        declared := hDeclared
        part := hAt }

end Spec

end Blueprint
