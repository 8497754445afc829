import Blueprint.Proofs.Places.Apart
import Blueprint.Proofs.Sound.Field
import Blueprint.Proofs.Sound.Flow
import Blueprint.Proofs.Sound.Rule
import Blueprint.Proofs.Sound.Screen

/-
  What holds of every document that was read, and what its
  checks rely on without looking again: the parts of its
  declarations are sound, its texts have no line feed, and
  fields and steps stand below their owners in order.

  Main definitions:
    * `Spec.strings`
    * `Spec.IsSound`

  Main statements:
    * `Declaration.isPartOf_of_ofKeyword`
    * `Spec.not_mem_of_mem_strings`
    * `Spec.isSound_of_parse`
-/

------------------------------------------------------------
-- Integrations and Events
------------------------------------------------------------

namespace Blueprint

open Text

variable {file : String}
variable {rest : List Char}
variable {b : Block}

/- The texts that an integration holds. -/
def Integration.strings (i : Integration) : List String :=
  i.name :: i.endpoint.toList ++ i.purpose.toList

/- The texts that an event holds. -/
def Event.strings (e : Event) : List String :=
  e.name :: e.fields

/- The text that a property of an integration holds. -/
def IntegrationProperty.text : IntegrationProperty → String
| .endpoint value => value
| .purpose value => value

theorem IntegrationProperty.subset_of_ofLine
    {line : Line}
    {p : IntegrationProperty}
    (h : ofLine file line = .ok p) :
    p.text.toList ⊆ line.text := by
  have hText := eq_ok_of_blame h
  unfold ofText at hText
  split at hText
  · cases hText
  · rename_i value hKey
    have hValue := List.Subset.trans (unquoted_subset value)
      (subset_of_property? hKey)
    dsimp only at hText
    split at hText
    case h_1 | h_2 =>
        cases hText
        rwa [text, String.toList_ofList]
    case h_3 => cases hText

theorem Integration.isPartOf_of_ofBlock
    {i : Integration}
    (h : Integration.ofBlock file rest b = .ok i)
    (hRest : rest ⊆ b.head.text) :
    ∀ s ∈ i.strings, IsPartOf b.lines s := by
  rcases exists_of_flatBlock h with
    ⟨name, properties, hName, hMap, rfl⟩
  have hRead := forall₂_of_mapM hMap
  have hShown : ∀ k p,
      (properties.foldl set
        ⟨name, none, none, b.head.location file⟩).shown? k =
          some p → IsPartOf b.lines p.text := by
    intro k p hKey
    rcases setsByKey.exists_row_of_shown?_foldl hRead hKey with
      ⟨line, hLine, hProperty⟩ | hNone
    · exact ⟨line, b.body_subset_lines hLine,
        IntegrationProperty.subset_of_ofLine hProperty⟩
    · rw [shown?_of_none] at hNone
      cases hNone
  rw [strings, List.cons_append, List.forall_mem_cons,
    List.forall_mem_append, name_foldl_set]
  refine ⟨isPartOf_of_readName hRest hName, ?_, ?_⟩
  · intro s hMem
    rw [Option.mem_toList] at hMem
    exact hShown "endpoint" (.endpoint s)
      (by rw [shown?, hMem]; rfl)
  · intro s hMem
    rw [Option.mem_toList] at hMem
    exact hShown "purpose" (.purpose s)
      (by rw [shown?, hMem]; rfl)

namespace Event

/- The names on a line of an event are parts of the line. -/
theorem sound_of_fieldsOfLine
    {line : Line}
    {names : List String}
    (h : fieldsOfLine file line = .ok names) :
    "" ∉ names ∧ ∀ s ∈ names, s.toList ⊆ line.text := by
  have hText := eq_ok_of_blame h
  unfold fieldsOfText at hText
  split at hText
  · rename_i key value hKey
    split at hText
    · refine ⟨empty_not_mem_of_readList hText, ?_⟩
      intro s hMem
      exact List.Subset.trans
        (subset_of_readList hText s hMem)
        (subset_of_property? hKey)
    · cases hText
  · split at hText
    · rename_i hName
      cases hText
      rw [List.forall_mem_singleton, String.toList_ofList,
        List.mem_singleton, eq_comm,
        String.ofList_eq_empty_iff]
      exact ⟨isIdentifier_ne_nil hName, List.Subset.refl _⟩
    · cases hText

/- An event is made of the names on its lines. -/
theorem exists_fields_of_ofBlock
    {e : Event}
    (h : ofBlock file rest b = .ok e) :
    readName .event rest = .ok e.name ∧
      ∃ fields,
        List.Forall₂
          (fun line names => fieldsOfLine file line = .ok names)
          b.body fields ∧
        e.fields = fields.flatten := by
  rcases exists_of_flatBlock h with
    ⟨name, fields, hName, hMap, rfl⟩
  exact ⟨hName, fields, forall₂_of_mapM hMap, rfl⟩

theorem empty_not_mem_fields
    {e : Event}
    (h : ofBlock file rest b = .ok e) :
    "" ∉ e.fields := by
  rcases exists_fields_of_ofBlock h with
    ⟨_, fields, hRead, hFields⟩
  rw [hFields, List.mem_flatten]
  rintro ⟨names, hNames, hEmpty⟩
  rcases exists_source_of_forall₂ hRead names hNames with
    ⟨line, _, hLine⟩
  exact (sound_of_fieldsOfLine hLine).1 hEmpty

theorem isPartOf_of_ofBlock
    {e : Event}
    (h : ofBlock file rest b = .ok e)
    (hRest : rest ⊆ b.head.text) :
    ∀ s ∈ e.strings, IsPartOf b.lines s := by
  rcases exists_fields_of_ofBlock h with
    ⟨hName, fields, hRead, hFields⟩
  rw [strings, List.forall_mem_cons, hFields,
    ← List.flatMap_id]
  exact ⟨isPartOf_of_readName hRest hName,
    isPartOf_of_forall₂ hRead
      fun _ _ hLine => (sound_of_fieldsOfLine hLine).2⟩

end Event

end Blueprint

------------------------------------------------------------
-- Documents
------------------------------------------------------------

namespace Blueprint

open Text

variable {file source : String}
variable {b : Block}
variable {spec : Spec}

namespace Declaration

/- The texts that a declaration holds. -/
def strings : Declaration → List String
| .entity e => e.strings
| .screen s => s.strings
| .flow f => f.strings
| .rule r => r.strings
| .integration i => i.strings
| .event e => e.strings

/-
  The texts of a declaration are parts of its lines, but for
  what a question to an AI expects.
-/
theorem isPartOf_of_ofKeyword
    {k : Keyword}
    {d : Declaration}
    (h : ofKeyword file (splitKeyword b.head.text).2 b k =
      .ok d) :
    ∀ s ∈ d.strings, IsPartOf b.lines s ∨ s = "boolean" := by
  have hRest := splitKeyword_subset b.head.text
  cases k with
  | entity =>
      rcases exists_of_map_eq_ok h with ⟨e, hRead, rfl⟩
      exact fun s hMem => .inl
        (Entity.isPartOf_of_ofBlock hRead hRest s hMem)
  | screen =>
      rcases exists_of_map_eq_ok h with ⟨s, hRead, rfl⟩
      exact fun t hMem => .inl
        (Screen.isPartOf_of_ofBlock hRead hRest t hMem)
  | flow =>
      rcases exists_of_map_eq_ok h with ⟨f, hRead, rfl⟩
      exact fun s hMem => .inl
        (Flow.isPartOf_of_ofBlock hRead hRest s hMem)
  | rule =>
      rcases exists_of_map_eq_ok h with ⟨r, hRead, rfl⟩
      exact Rule.isPartOf_of_ofBlock hRead hRest
  | integration =>
      rcases exists_of_map_eq_ok h with ⟨i, hRead, rfl⟩
      exact fun s hMem => .inl
        (Integration.isPartOf_of_ofBlock hRead hRest s hMem)
  | event =>
      rcases exists_of_map_eq_ok h with ⟨e, hRead, rfl⟩
      exact fun s hMem => .inl
        (Event.isPartOf_of_ofBlock hRead hRest s hMem)

end Declaration

namespace Spec

/- The texts that a specification holds. -/
def strings (spec : Spec) : List String :=
  spec.appName :: spec.entities.flatMap Entity.strings ++
    spec.screens.flatMap Screen.strings ++
    spec.flows.flatMap Flow.strings ++
    spec.rules.flatMap Rule.strings ++
    spec.integrations.flatMap Integration.strings ++
    spec.events.flatMap Event.strings

/- What holds of every specification that was read. -/
structure IsSound (spec : Spec) : Prop where
  fields : ∀ e ∈ spec.entities, ∀ f ∈ e.fields, f.IsSound
  screens : ∀ s ∈ spec.screens, s.IsSound
  flowSteps : ∀ f ∈ spec.flows, ∀ step ∈ f.steps,
    step.IsSound
  rules : ∀ r ∈ spec.rules, r.IsSound
  events : ∀ e ∈ spec.events, "" ∉ e.fields
  strings : ∀ s ∈ spec.strings, '\n' ∉ s.toList
  fieldLines : ∀ e ∈ spec.entities,
    (e.location :: e.fields.map Field.location).Pairwise
      (fun l m => l.line < m.line)
  stepLines : ∀ f ∈ spec.flows,
    (f.location :: f.steps.map FlowStep.location).Pairwise
      (fun l m => l.line < m.line)

/- Every declaration was read from a block of its kind. -/
theorem exists_block_of_mem
    {α : Type}
    {k : Keyword}
    (wrap : α → Declaration)
    {items : List α}
    {a : α}
    (h : parse file source = .ok spec)
    (hItems : spec.ofKind k = items.map wrap)
    (hKeyword : ∀ a, (wrap a).keyword = k)
    (hMem : a ∈ items) :
    ∃ b ∈ documentBlocks source,
      Declaration.ofKeyword file (splitKeyword b.head.text).2
        b k = .ok (wrap a) := by
  have hAll := forall₂_of_parse wrap h hItems hKeyword
    (fun _ _ hRead => hRead)
  rcases exists_source_of_forall₂ hAll a hMem with
    ⟨b, hBlock, hRead⟩
  exact ⟨b, List.mem_of_mem_filter hBlock, hRead⟩

theorem not_mem_of_mem_strings
    (h : parse file source = .ok spec) :
    ∀ s ∈ spec.strings, '\n' ∉ s.toList := by
  have hDeclared : ∀ {α : Type} {k : Keyword}
      (wrap : α → Declaration) {items : List α}
      {strings : α → List String},
      spec.ofKind k = items.map wrap →
        (∀ a, (wrap a).keyword = k) →
          (∀ a, strings a = (wrap a).strings) →
            ∀ s ∈ items.flatMap strings, '\n' ∉ s.toList := by
    intro α k wrap items strings hItems hKeyword hStrings s hMem
    rcases List.mem_flatMap.mp hMem with ⟨a, hItem, hString⟩
    rcases exists_block_of_mem wrap h hItems hKeyword hItem
      with
      ⟨b, hBlock, hRead⟩
    rw [hStrings] at hString
    rcases Declaration.isPartOf_of_ofKeyword hRead s hString
      with ⟨line, hLine, hPart⟩ | rfl
    · exact fun hBreak => not_mem_text_of_mem_documentBlocks
        hBlock hLine (hPart hBreak)
    · decide
  rcases exists_of_parse_eq_ok h with
    ⟨header, name, lines, hLines, hName, _, hSpec⟩
  have hApp : '\n' ∉ spec.appName.toList := by
    rw [hSpec, appName_ofDeclarations, String.toList_ofList]
    have hHeader : header ∈ significantLines source := by
      rw [hLines]
      exact List.mem_cons_self
    exact fun hBreak =>
      not_mem_text_of_mem_significantLines hHeader
        (subset_of_headerName? hName hBreak)
  simp only [strings, List.cons_append, List.forall_mem_cons,
    List.forall_mem_append]
  exact ⟨hApp, ⟨⟨⟨⟨
    hDeclared .entity rfl
      (fun _ => rfl) (fun _ => rfl),
    hDeclared .screen rfl
      (fun _ => rfl) (fun _ => rfl)⟩,
    hDeclared .flow rfl
      (fun _ => rfl) (fun _ => rfl)⟩,
    hDeclared .rule rfl
      (fun _ => rfl) (fun _ => rfl)⟩,
    hDeclared .integration rfl
      (fun _ => rfl) (fun _ => rfl)⟩,
    hDeclared .event rfl
      (fun _ => rfl) (fun _ => rfl)⟩

/- What was read is what the reader of its kind gives. -/
theorem exists_reading_of_mem
    {α : Type}
    {k : Keyword}
    (wrap : α → Declaration)
    (read : List Char → Block → Except Fault α)
    {items : List α}
    {a : α}
    (h : parse file source = .ok spec)
    (hItems : spec.ofKind k = items.map wrap)
    (hKeyword : ∀ a, (wrap a).keyword = k)
    (hRead : ∀ rest b,
      Declaration.ofKeyword file rest b k =
        (read rest b).map wrap)
    (hWrap : Function.Injective wrap)
    (hMem : a ∈ items) :
    ∃ b ∈ documentBlocks source,
      read (splitKeyword b.head.text).2 b = .ok a := by
  rcases exists_block_of_mem wrap h hItems hKeyword hMem with
    ⟨b, hBlock, hOf⟩
  rw [hRead] at hOf
  rcases Declaration.exists_of_map_eq_ok hOf with
    ⟨other, hOther, hSame⟩
  exact ⟨b, hBlock, hWrap hSame ▸ hOther⟩

/- The fields of an entity are read from a block in order. -/
theorem exists_fieldBlock
    {e : Entity}
    (h : parse file source = .ok spec)
    (hEntity : e ∈ spec.entities) :
    ∃ b ∈ documentBlocks source,
      e.location = b.head.location file ∧
        List.Forall₂
          (fun line f => Field.ofLine file line = .ok f)
          b.body e.fields := by
  rcases exists_reading_of_mem .entity
    (Entity.ofBlock file) h rfl (fun _ => rfl) (fun _ _ => rfl)
    (fun _ _ => Declaration.entity.inj) hEntity with
      ⟨b, hBlock, hRead⟩
  rcases exists_of_flatBlock hRead with
    ⟨name, fields, _, hMap, rfl⟩
  exact ⟨b, hBlock, rfl, forall₂_of_mapM hMap⟩

/- The steps of a flow are read from a block in order. -/
theorem exists_stepBlock
    {f : Flow}
    (h : parse file source = .ok spec)
    (hFlow : f ∈ spec.flows) :
    ∃ b ∈ documentBlocks source,
      f.location = b.head.location file ∧
        List.Forall₂
          (fun line step => FlowStep.ofLine file line = .ok step)
          b.body f.steps := by
  rcases exists_reading_of_mem .flow
    (Flow.ofBlock file) h rfl (fun _ => rfl) (fun _ _ => rfl)
    (fun _ _ => Declaration.flow.inj) hFlow with
      ⟨b, hBlock, hRead⟩
  rcases exists_of_flatBlock hRead with
    ⟨name, steps, _, hMap, rfl⟩
  exact ⟨b, hBlock, rfl, forall₂_of_mapM hMap⟩

/-
  Every specification that was read is sound, whatever the
  characters of its source. Lines that are counted in 32
  bits keep their order below 2^32 rows
  (`toNat_ofNat_significantLines_number`).
-/
theorem isSound_of_parse
    (h : parse file source = .ok spec) :
    spec.IsSound where
  fields := by
    intro e he f hf
    rcases exists_fieldBlock h he with ⟨b, _, _, hFields⟩
    rcases exists_source_of_forall₂ hFields f hf with
      ⟨line, _, hRead⟩
    exact Field.isSound_of_ofLine hRead
  screens := by
    intro s hs
    rcases exists_reading_of_mem .screen
      (Screen.ofBlock file) h rfl (fun _ => rfl) (fun _ _ => rfl)
      (fun _ _ => Declaration.screen.inj) hs with
        ⟨b, _, hRead⟩
    exact Screen.isSound_of_ofBlock hRead
  flowSteps := by
    intro f hf step hStep
    rcases exists_stepBlock h hf with ⟨b, _, _, hSteps⟩
    rcases exists_source_of_forall₂ hSteps step hStep with
      ⟨line, _, hRead⟩
    exact FlowStep.isSound_of_ofLine hRead
  rules := by
    intro r hr
    rcases exists_reading_of_mem .rule
      (Rule.ofBlock file) h rfl (fun _ => rfl) (fun _ _ => rfl)
      (fun _ _ => Declaration.rule.inj) hr with
        ⟨b, _, hRead⟩
    exact Rule.isSound_of_ofBlock hRead
  events := by
    intro e he
    rcases exists_reading_of_mem .event
      (Event.ofBlock file) h rfl (fun _ => rfl) (fun _ _ => rfl)
      (fun _ _ => Declaration.event.inj) he with
        ⟨b, _, hRead⟩
    exact Event.empty_not_mem_fields hRead
  strings := not_mem_of_mem_strings h
  fieldLines := by
    intro e he
    rcases exists_fieldBlock h he with
      ⟨b, hBlock, hPlace, hFields⟩
    rw [hPlace]
    exact places_pairwise_of_forall₂ hBlock hFields
      fun _ _ => Field.location_of_ofLine
  stepLines := by
    intro f hf
    rcases exists_stepBlock h hf with
      ⟨b, hBlock, hPlace, hSteps⟩
    rw [hPlace]
    exact places_pairwise_of_forall₂ hBlock hSteps
      fun _ _ => FlowStep.location_of_ofLine

end Spec

/- A document with a declaration of each kind. -/
def clinicSource : String :=
  "app \"T\"\nentity A\n  x: enum(a, \"\"), pattern=\"p\"\n" ++
    "  y: computed( n )\n  z: list of A\n" ++
    "screen S\n  kind: wizard\n  entity:\n" ++
    "  steps:\n    \"One\" → [x, ]\n" ++
    "flow F\n  1. AI: sort\n" ++
    "rule \" R \"\n  if ai(A.x, \"p?\") → go\n" ++
    "integration I\nevent E\n  fields: [x]\n"

/- What it declares. -/
def clinicSpec : Spec where
  appName := "T"
  entities := [{
    name := "A"
    fields := [
      ⟨"x", .enum ["a"], { pattern := some "p" },
        ⟨"clinic", 3⟩⟩,
      ⟨"y", .computed "n", {}, ⟨"clinic", 4⟩⟩,
      ⟨"z", .list "A", {}, ⟨"clinic", 5⟩⟩]
    location := ⟨"clinic", 2⟩ }]
  screens := [{
    name := "S"
    kind := .wizard
    entity := none
    fields := []
    filters := []
    actions := []
    primaryAction := none
    steps := [⟨"One", ["x"], ⟨"clinic", 10⟩⟩]
    widgets := []
    location := ⟨"clinic", 6⟩ }]
  flows := [{
    name := "F"
    steps :=
      [⟨1, "AI: sort", true, some "sort", ⟨"clinic", 12⟩⟩]
    location := ⟨"clinic", 11⟩ }]
  rules := [⟨"R", some (.ai ⟨"A.x", "p?", "boolean"⟩),
    some "go", ⟨"clinic", 13⟩⟩]
  integrations := [⟨"I", none, none, ⟨"clinic", 15⟩⟩]
  events := [⟨"E", ["x"], ⟨"clinic", 16⟩⟩]

/- It leaves out what is empty and trims what is not. -/
theorem isSound_of_parse_clinicSpec :
    Spec.parse "clinic" clinicSource = .ok clinicSpec ∧
      clinicSpec.IsSound := by
  have hParse : Spec.parse "clinic" clinicSource =
      .ok clinicSpec := by
    decide +kernel
  exact ⟨hParse, Spec.isSound_of_parse hParse⟩

end Blueprint
