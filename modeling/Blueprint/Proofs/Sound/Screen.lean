import Blueprint.Proofs.Reading.Bodies
import Blueprint.Proofs.Reading.Names
import Blueprint.Proofs.Sound.Part

/-
  Screens that were read: no entity, no action and no name
  in one of their lists is there but empty. All texts of a
  screen are parts of its lines.

  Main definitions:
    * `ScreenProperty.strings`, `Screen.strings`
    * `ScreenProperty.IsSound`, `Screen.IsSound`

  Main statements:
    * `ScreenProperty.sound_of_ofParts`
    * `Screen.isSound_of_ofBlock`
    * `Screen.isPartOf_of_ofBlock`
-/

------------------------------------------------------------
-- Screens
------------------------------------------------------------

namespace Blueprint

open Text

/- The text that an unknown kind of screen is kept as. -/
def ScreenKind.strings : ScreenKind → List String
| .unrecognized raw => [raw]
| _ => []

/- The text that an unknown kind of widget is kept as. -/
def WidgetKind.strings : WidgetKind → List String
| .unrecognized raw => [raw]
| _ => []

theorem ScreenKind.eq_of_mem_strings
    {word s : String}
    (h : s ∈ (ofWord word).strings) :
    s = word := by
  unfold ofWord at h
  split at h
  case h_7 => exact List.mem_singleton.mp h
  all_goals cases h

theorem WidgetKind.eq_of_mem_strings
    {word s : String}
    (h : s ∈ (ofWord word).strings) :
    s = word := by
  unfold ofWord at h
  split at h
  case h_7 => exact List.mem_singleton.mp h
  all_goals cases h

/- The texts that a step of a wizard holds. -/
def WizardStep.strings (step : WizardStep) : List String :=
  step.name :: step.fields

/- The texts that a widget holds. -/
def Widget.strings (w : Widget) : List String :=
  w.label :: w.kind.strings

variable {file : String}
variable {line : Line}

theorem WizardStep.subset_of_parts?
    {text name list : List Char}
    (h : parts? text = some (name, list)) :
    name ⊆ text ∧ list ⊆ text := by
  rcases Option.bind_eq_some_iff.mp h with
    ⟨⟨body, afterName⟩, hName, h⟩
  rcases Option.bind_eq_some_iff.mp h with
    ⟨afterArrow, hArrow, h⟩
  rcases Option.bind_eq_some_iff.mp h with ⟨_, _, h⟩
  cases h
  have hParts := subset_of_quoted? hName
  refine ⟨hParts.1, ?_⟩
  exact List.Subset.trans (trimStart_subset afterArrow)
    (List.Subset.trans (subset_of_stripStart hArrow)
      (List.Subset.trans (trimStart_subset _) hParts.2))

/- A wizard step asks for fields with names, from its line. -/
theorem WizardStep.sound_of_ofLine
    {step : WizardStep}
    (h : ofLine file line = .ok step) :
    "" ∉ step.fields ∧
      ∀ s ∈ step.strings, s.toList ⊆ line.text := by
  have hText := eq_ok_of_blame h
  split at hText
  · cases hText
  · rename_i name list hParts
    rcases exists_of_bind_eq_ok hText with
      ⟨fields, hList, hStep⟩
    cases hStep
    have hPart := subset_of_parts? hParts
    refine ⟨empty_not_mem_of_readList hList, ?_⟩
    rw [strings, List.forall_mem_cons, String.toList_ofList]
    refine ⟨hPart.1, ?_⟩
    intro s hMem
    exact List.Subset.trans
      (subset_of_readList hList s hMem) hPart.2

theorem Widget.subset_of_parts?
    {text label kind : List Char}
    (h : parts? text = some (label, kind)) :
    label ⊆ text ∧ kind ⊆ text := by
  rcases Option.bind_eq_some_iff.mp h with
    ⟨⟨body, afterLabel⟩, hLabel, h⟩
  rcases Option.bind_eq_some_iff.mp h with
    ⟨inner, hInner, h⟩
  have hParts := subset_of_quoted? hLabel
  split at h
  · cases h
    refine ⟨hParts.1, ?_⟩
    exact List.Subset.trans (trim_subset inner)
      (List.Subset.trans (subset_of_enclosed? hInner)
        (List.Subset.trans (trimStart_subset _) hParts.2))
  · cases h

/- The texts of a widget are parts of its line. -/
theorem Widget.subset_of_ofLine
    {w : Widget}
    (h : ofLine file line = .ok w) :
    ∀ s ∈ w.strings, s.toList ⊆ line.text := by
  have hText := eq_ok_of_blame h
  split at hText
  · cases hText
  · rename_i label kind hParts
    cases hText
    have hPart := subset_of_parts? hParts
    rw [strings, List.forall_mem_cons, String.toList_ofList]
    refine ⟨hPart.1, ?_⟩
    intro s hMem
    rw [WidgetKind.eq_of_mem_strings hMem,
      String.toList_ofList]
    exact hPart.2

namespace ScreenProperty

/- The texts that a property of a screen holds. -/
def strings : ScreenProperty → List String
| .kind screenKind => screenKind.strings
| .entity name => name.toList
| .action verb => verb.toList
| .fields names => names
| .filters names => names
| .actions names => names
| .steps items => items.flatMap WizardStep.strings
| .widgets items => items.flatMap Widget.strings

/- What holds of a property that was read. -/
def IsSound : ScreenProperty → Prop
| .kind _ => True
| .entity name => name ≠ some ""
| .action verb => verb ≠ some ""
| .fields names => "" ∉ names
| .filters names => "" ∉ names
| .actions names => "" ∉ names
| .steps items => ∀ step ∈ items, "" ∉ step.fields
| .widgets _ => True

variable {row : Block}
variable {p : ScreenProperty}

/- A value on its own line gives its parts. -/
theorem isPartOf_of_subset
    {names : List String}
    {value : List Char}
    (hValue : value ⊆ row.head.text)
    (hNames : ∀ s ∈ names, s.toList ⊆ value) :
    ∀ s ∈ names, IsPartOf row.lines s := by
  intro s hMem
  exact ⟨row.head, row.head_mem_lines,
    List.Subset.trans (hNames s hMem) hValue⟩

/- A property that was read holds parts of its lines. -/
theorem sound_of_ofParts
    {key : String}
    {value : List Char}
    (hValue : value ⊆ row.head.text)
    (h : ofParts file key value row = .ok p) :
    p.IsSound ∧ ∀ s ∈ p.strings, IsPartOf row.lines s := by
  have hList : ∀ {build : List String → ScreenProperty},
      row.head.blame file ((readList value).map build) =
        .ok p →
          ∃ names, readList value = .ok names ∧
            build names = p := fun hBlame =>
    Declaration.exists_of_map_eq_ok (eq_ok_of_blame hBlame)
  have hOption : ∀ s ∈ (nonempty? value).toList,
      s.toList ⊆ value := by
    intro s hMem
    exact subset_of_nonempty? (Option.mem_toList.mp hMem)
  unfold ofParts at h
  dsimp only at h
  split at h
  case h_1 =>
      cases h
      refine ⟨trivial, isPartOf_of_subset hValue ?_⟩
      intro s hMem
      rw [ScreenKind.eq_of_mem_strings hMem,
        String.toList_ofList]
      exact List.Subset.refl value
  case h_2 | h_3 =>
      cases h
      exact ⟨nonempty?_ne_some_empty value,
        isPartOf_of_subset hValue hOption⟩
  case h_4 | h_5 | h_6 =>
      rcases hList h with ⟨names, hNames, rfl⟩
      exact ⟨empty_not_mem_of_readList hNames,
        isPartOf_of_subset hValue (subset_of_readList hNames)⟩
  case h_7 =>
      rcases exists_of_bind_eq_ok h with ⟨_, _, hRest⟩
      rcases exists_of_bind_eq_ok hRest with
        ⟨steps, hMap, hAll⟩
      cases hAll
      have hRead := forall₂_of_mapM hMap
      refine ⟨?_, isPartOf_of_forall₂ hRead
        fun _ _ hLine => (WizardStep.sound_of_ofLine hLine).2⟩
      intro step hMem
      rcases exists_source_of_forall₂ hRead step hMem with
        ⟨line, _, hLine⟩
      exact (WizardStep.sound_of_ofLine hLine).1
  case h_8 =>
      rcases exists_of_bind_eq_ok h with ⟨_, _, hRest⟩
      rcases exists_of_bind_eq_ok hRest with
        ⟨widgets, hMap, hAll⟩
      cases hAll
      exact ⟨trivial, isPartOf_of_forall₂ (forall₂_of_mapM hMap)
        fun _ _ => Widget.subset_of_ofLine⟩
  case h_9 => cases h

end ScreenProperty

/- What is there before any property holds no texts. -/
theorem ScreenParts.sound_of_shown?_empty
    {k : String}
    {p : ScreenProperty}
    (h : ({} : ScreenParts).shown? k = some p) :
    p.IsSound ∧ p.strings = [] := by
  unfold shown? at h
  split at h <;> cases h <;>
    simp [ScreenProperty.IsSound, ScreenProperty.strings]

namespace Screen

/- The texts that a screen holds. -/
def strings (s : Screen) : List String :=
  s.name :: s.kind.strings ++ s.entity.toList ++ s.fields ++
    s.filters ++ s.actions ++ s.primaryAction.toList ++
      s.steps.flatMap WizardStep.strings ++
        s.widgets.flatMap Widget.strings

/- What holds of a screen that was read. -/
structure IsSound (s : Screen) : Prop where
  entity : s.entity ≠ some ""
  primaryAction : s.primaryAction ≠ some ""
  fields : "" ∉ s.fields
  filters : "" ∉ s.filters
  actions : "" ∉ s.actions
  steps : ∀ step ∈ s.steps, "" ∉ step.fields

variable {rest : List Char}
variable {b : Block}
variable {s : Screen}

/- What a screen has under a key comes from its lines. -/
theorem sound_of_shown?
    (h : ofBlock file rest b = .ok s)
    {k : String}
    {p : ScreenProperty}
    (hShown : s.parts.shown? k = some p) :
    p.IsSound ∧ ∀ t ∈ p.strings, IsPartOf b.lines t := by
  rcases exists_properties_of_ofBlock h with
    ⟨properties, hRead, hParts⟩
  rw [hParts] at hShown
  rcases ScreenParts.setsByKey.exists_row_of_shown?_foldl hRead
    hShown with ⟨row, hRow, hProperty⟩ | hNone
  · rcases ScreenProperty.exists_parts_of_ofBlock hProperty
      with ⟨key, value, hKey, hOf⟩
    have hSound := ScreenProperty.sound_of_ofParts
      (subset_of_property? hKey) hOf
    refine ⟨hSound.1, ?_⟩
    intro t hMem
    rcases hSound.2 t hMem with ⟨line, hLine, hPart⟩
    refine ⟨line, b.body_subset_lines ?_, hPart⟩
    rw [← flatMap_lines_blocks (bodyLevel b.body) b.body]
    exact List.mem_flatMap.mpr ⟨row, hRow, hLine⟩
  · have hEmpty := ScreenParts.sound_of_shown?_empty hNone
    rw [hEmpty.2]
    exact ⟨hEmpty.1, List.forall_mem_nil _⟩

theorem isSound_of_ofBlock
    (h : ofBlock file rest b = .ok s) :
    s.IsSound where
  entity := (sound_of_shown? h (k := "entity") rfl).1
  primaryAction := (sound_of_shown? h (k := "action") rfl).1
  fields := (sound_of_shown? h (k := "fields") rfl).1
  filters := (sound_of_shown? h (k := "filters") rfl).1
  actions := (sound_of_shown? h (k := "actions") rfl).1
  steps := (sound_of_shown? h (k := "steps") rfl).1

theorem isPartOf_of_ofBlock
    (h : ofBlock file rest b = .ok s)
    (hRest : rest ⊆ b.head.text) :
    ∀ t ∈ s.strings, IsPartOf b.lines t := by
  have hShown : ∀ k p, s.parts.shown? k = some p →
      ∀ t ∈ p.strings, IsPartOf b.lines t :=
    fun k p hKey => (sound_of_shown? h hKey).2
  simp only [strings, List.cons_append, List.forall_mem_cons,
    List.forall_mem_append]
  refine ⟨?_, ?_⟩
  · exact ⟨b.head, b.head_mem_lines, List.Subset.trans
      (subset_of_readName (readName_of_ofBlock h)) hRest⟩
  · exact ⟨⟨⟨⟨⟨⟨⟨hShown "kind" _ rfl,
      hShown "entity" _ rfl⟩, hShown "fields" _ rfl⟩,
        hShown "filters" _ rfl⟩, hShown "actions" _ rfl⟩,
          hShown "action" _ rfl⟩, hShown "steps" _ rfl⟩,
            hShown "widgets" _ rfl⟩

end Screen

end Blueprint
