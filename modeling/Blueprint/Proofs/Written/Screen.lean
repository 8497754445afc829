import Blueprint.Proofs.Source.Blocks
import Blueprint.Proofs.Source.Rows
import Blueprint.Proofs.Written.Entity
import Blueprint.Screen

/-
  How screens are written, their properties in any order,
  and that they are read back whatever their texts hold.

  Main definitions:
    * `IsItem`, `listText`
    * `StepForm`, `WidgetForm`
    * `ScreenKey`, `ScreenForm`
    * `ScreenForm.IsWritable`, `ScreenForm.IsOneLine`
    * `ScreenForm.screen`

  Main statements:
    * `readList_listText`
    * `StepForm.ofLine_text`, `WidgetForm.ofLine_text`
    * `ScreenForm.ofBlock_keyBlock`
-/

------------------------------------------------------------
-- Lists in Brackets
------------------------------------------------------------

namespace Blueprint

open Text

/- A text that can be an item of a list. -/
def IsItem (text : List Char) : Prop :=
  text ≠ [] ∧ IsEscaped text

instance (text : List Char) : Decidable (IsItem text) :=
  inferInstanceAs (Decidable (_ ∧ _))

/- A list of items in quotes. -/
def listText (items : List (List Char)) : List Char :=
  ['['] ++ (joinWith [',', ' '] (items.map inQuotes) ++ [']'])

variable {items : List (List Char)}

/- The quotes around the items are taken off. -/
theorem listItems_inQuotes
    (hItems : ∀ item ∈ items, IsItem item) :
    listItems (joinWith [',', ' '] (items.map inQuotes)) =
      items.map String.ofList := by
  have hQuoted : topLevelItems (joinWith [',', ' ']
      (items.map inQuotes)) = items.map inQuotes := by
    apply topLevelItems_joinWith
    · rintro quoted hMem
      rcases List.mem_map.mp hMem with ⟨item, _, rfl⟩
      exact isSolid_inQuotes item
    · rintro quoted hMem
      rcases List.mem_map.mp hMem with ⟨item, hItem, rfl⟩
      exact scans_inQuotes 0 (by decide) (hItems item hItem).2
  have hUnquoted : (items.map inQuotes).map unquoted =
      items := by
    have hSame : unquoted ∘ inQuotes = id :=
      funext unquoted_inQuotes
    rw [List.map_map, hSame, List.map_id]
  have hSome : items.filter (fun item => !item.isEmpty) =
      items := by
    rw [List.filter_eq_self]
    intro item hMem
    simpa using (hItems item hMem).1
  rw [listItems, hQuoted, hUnquoted, hSome]

/- A list is read back with its items in order. -/
theorem readList_listText
    (hItems : ∀ item ∈ items, IsItem item) :
    readList (listText items) =
      .ok (items.map String.ofList) := by
  rw [readList, listText, enclosed?_append]
  dsimp only
  rw [listItems_inQuotes hItems]

/- A list is solid. -/
theorem isSolid_listText (items : List (List Char)) :
    IsSolid (listText items) :=
  isSolid_enclosed (by decide) (by decide) _

/- A list is on one line when its items are. -/
theorem not_mem_listText
    (hItems : ∀ item ∈ items, '\n' ∉ item) :
    '\n' ∉ listText items := by
  have hJoined : '\n' ∉
      joinWith [',', ' '] (items.map inQuotes) := by
    apply not_mem_joinWith (by decide)
    intro quoted hMem
    rcases List.mem_map.mp hMem with ⟨item, hItem, rfl⟩
    exact not_mem_inQuotes (by decide) (hItems item hItem)
  simp [listText, hJoined]

end Blueprint

------------------------------------------------------------
-- Steps and Widgets
------------------------------------------------------------

namespace Blueprint

open Text

/- A step of a wizard in written form. -/
structure StepForm where
  name : List Char
  fields : List (List Char)

namespace StepForm

/- The step as it is written. -/
def text (s : StepForm) : List Char :=
  inQuotes s.name ++ (" → ".toList ++ listText s.fields)

/- The step that is meant, at a line. -/
def step
    (s : StepForm)
    (file : String)
    (number : Nat) : WizardStep where
  name := String.ofList s.name
  fields := s.fields.map String.ofList
  location := ⟨file, number⟩

/- The name is escaped, and so are the items of the list. -/
structure IsWritable (s : StepForm) : Prop where
  name : IsEscaped s.name
  fields : ∀ item ∈ s.fields, IsItem item

variable {s : StepForm}

/- A step is solid. -/
theorem isSolid_text (s : StepForm) : IsSolid s.text := by
  have hSolid := (isSolid_inQuotes s.name).append
    (isSolid_listText s.fields) " → ".toList
  rwa [List.append_assoc] at hSolid

/- A step is read back from its line. -/
theorem ofLine_text
    (file : String)
    (number : Nat)
    (hWritable : s.IsWritable) :
    WizardStep.ofLine file ⟨s.text, 2, number⟩ =
      .ok (s.step file number) := by
  have hName := quoted?_inQuotes
    (" → ".toList ++ listText s.fields) hWritable.name
  have hArrow : stripStart ['→'] (trimStart
      (" → ".toList ++ listText s.fields)) =
        some (' ' :: listText s.fields) :=
    rfl
  have hList : trimStart (' ' :: listText s.fields) =
      listText s.fields :=
    rfl
  have hInner := enclosed?_append ['[']
    (joinWith [',', ' '] (s.fields.map inQuotes)) [']']
  have hParts : WizardStep.parts? s.text =
      some (s.name, listText s.fields) := by
    rw [WizardStep.parts?, text, hName]
    simp only [Option.bind_eq_bind, Option.bind_some, hArrow,
      hList]
    rw [listText, hInner]
    rfl
  rw [WizardStep.ofLine, hParts]
  dsimp only
  rw [readList_listText hWritable.fields]
  rfl

end StepForm

/- A widget of a dashboard in written form. -/
structure WidgetForm where
  label : List Char
  kind : List Char

namespace WidgetForm

/- The widget as it is written. -/
def text (w : WidgetForm) : List Char :=
  inQuotes w.label ++
    ([' '] ++ (['('] ++ (w.kind ++ [')'])))

/- The widget that is meant, at a line. -/
def widget
    (w : WidgetForm)
    (file : String)
    (number : Nat) : Widget where
  label := String.ofList w.label
  kind := WidgetKind.ofWord (String.ofList w.kind)
  location := ⟨file, number⟩

/- The label is escaped, and the kind is an identifier. -/
structure IsWritable (w : WidgetForm) : Prop where
  label : IsEscaped w.label
  kind : isIdentifier w.kind = true

variable {w : WidgetForm}

/- A widget is solid. -/
theorem isSolid_text (w : WidgetForm) : IsSolid w.text := by
  have hEnd : IsSolid ('(' :: w.kind ++ [')']) :=
    isSolid_enclosed (by decide) (by decide) w.kind
  have hSolid := (isSolid_inQuotes w.label).append hEnd [' ']
  rwa [List.append_assoc] at hSolid

/- A widget is read back from its line. -/
theorem ofLine_text
    (file : String)
    (number : Nat)
    (hWritable : w.IsWritable) :
    Widget.ofLine file ⟨w.text, 2, number⟩ =
      .ok (w.widget file number) := by
  have hLabel := quoted?_inQuotes
    ([' '] ++ (['('] ++ (w.kind ++ [')']))) hWritable.label
  have hStart : trimStart
      ([' '] ++ (['('] ++ (w.kind ++ [')']))) =
        ['('] ++ (w.kind ++ [')']) :=
    rfl
  have hInner := enclosed?_append ['('] w.kind [')']
  have hKind := isSolid_of_isIdentifier hWritable.kind
  have hParts : Widget.parts? w.text =
      some (w.label, w.kind) := by
    rw [Widget.parts?, text, hLabel]
    simp only [Option.bind_eq_bind, Option.bind_some, hStart,
      hInner, hKind.trim_eq, hWritable.kind, if_true]
  rw [Widget.ofLine, hParts]
  rfl

end WidgetForm

end Blueprint

------------------------------------------------------------
-- Forms of Screens
------------------------------------------------------------

namespace Blueprint

open Text

/- The keys of the properties of a screen. -/
inductive ScreenKey where
| kind
| entity
| action
| fields
| filters
| actions
| steps
| widgets
deriving DecidableEq

namespace ScreenKey

/- The key as it is written. -/
def word : ScreenKey → String
| .kind => "kind"
| .entity => "entity"
| .action => "action"
| .fields => "fields"
| .filters => "filters"
| .actions => "actions"
| .steps => "steps"
| .widgets => "widgets"

/- The word of a key is a run of letters. -/
theorem isIdentifier_word (k : ScreenKey) :
    isIdentifier k.word.toList = true := by
  cases k <;> decide

end ScreenKey

/-
  A screen in written form, with the keys of its properties
  in the order of their lines.
-/
structure ScreenForm where
  name : List Char
  kind : List Char
  entity : Option (List Char)
  action : Option (List Char)
  fields : List (List Char)
  filters : List (List Char)
  actions : List (List Char)
  steps : List StepForm
  widgets : List WidgetForm
  order : List ScreenKey

namespace ScreenForm

/- The value on the line of a key. -/
def value (s : ScreenForm) : ScreenKey → List Char
| .kind => s.kind
| .entity => s.entity.getD []
| .action => s.action.getD []
| .fields => listText s.fields
| .filters => listText s.filters
| .actions => listText s.actions
| .steps => []
| .widgets => []

/- The texts of the lines below the line of a key. -/
def nested (s : ScreenForm) : ScreenKey → List (List Char)
| .steps => s.steps.map StepForm.text
| .widgets => s.widgets.map WidgetForm.text
| _ => []

/- The line of a key. -/
def propertyText
    (s : ScreenForm)
    (k : ScreenKey) : List Char :=
  let value := s.value k
  k.word.toList ++
    ':' :: if value = [] then [] else ' ' :: value

/- The rows of a key. -/
def propertyRows
    (s : ScreenForm)
    (k : ScreenKey) : List (List Char) :=
  indented 1 (s.propertyText k) ::
    (s.nested k).map (indented 2)

/- The head of a screen. -/
def head (s : ScreenForm) : List Char :=
  "screen ".toList ++ s.name

/- All rows of a screen. -/
def rows (s : ScreenForm) : List (List Char) :=
  s.head :: s.order.flatMap s.propertyRows

/-
  The line of a key, when the properties are written in an
  order from a line on.
-/
def keyLine
    (s : ScreenForm)
    (number : Nat)
    (order : List ScreenKey)
    (k : ScreenKey) : Nat :=
  let before := order.takeWhile (· != k)
  number + (before.flatMap s.propertyRows).length

/- The steps that are meant, below a line. -/
def stepsBelow
    (s : ScreenForm)
    (file : String)
    (number : Nat) : List WizardStep :=
  s.steps.mapIdx fun i step => step.step file (number + 1 + i)

/- The widgets that are meant, below a line. -/
def widgetsBelow
    (s : ScreenForm)
    (file : String)
    (number : Nat) : List Widget :=
  s.widgets.mapIdx fun i w => w.widget file (number + 1 + i)

/-
  The screen that is meant, at a line. Its steps and widgets
  are on the lines below their keys.
-/
def screen
    (s : ScreenForm)
    (file : String)
    (number : Nat) : Screen where
  name := String.ofList s.name
  kind := ScreenKind.ofWord (String.ofList s.kind)
  entity := s.entity.map String.ofList
  fields := s.fields.map String.ofList
  filters := s.filters.map String.ofList
  actions := s.actions.map String.ofList
  primaryAction := s.action.map String.ofList
  steps :=
    s.stepsBelow file (s.keyLine (number + 1) s.order .steps)
  widgets :=
    s.widgetsBelow file
      (s.keyLine (number + 1) s.order .widgets)
  location := ⟨file, number⟩

/- A key that cannot be left out. -/
def IsNeeded (s : ScreenForm) : ScreenKey → Prop
| .kind => True
| .entity => s.entity ≠ none
| .action => s.action ≠ none
| .fields => s.fields ≠ []
| .filters => s.filters ≠ []
| .actions => s.actions ≠ []
| .steps => s.steps ≠ []
| .widgets => s.widgets ≠ []

/-
  Names and kinds are identifiers, the entity and the action
  are trimmed, and quoted texts are escaped. Every key is
  written once at most, and once if it is needed.
-/
structure IsWritable (s : ScreenForm) : Prop where
  name : isIdentifier s.name = true
  kind : isIdentifier s.kind = true
  entity : ∀ text ∈ s.entity, IsSolid text ∧ '\n' ∉ text
  action : ∀ text ∈ s.action, IsSolid text ∧ '\n' ∉ text
  fields : ∀ item ∈ s.fields, IsItem item
  filters : ∀ item ∈ s.filters, IsItem item
  actions : ∀ item ∈ s.actions, IsItem item
  steps : ∀ step ∈ s.steps, step.IsWritable
  widgets : ∀ w ∈ s.widgets, w.IsWritable
  once : s.order.Nodup
  needed : ∀ k, s.IsNeeded k → k ∈ s.order

/- The texts that are written in quotes. -/
def quotedTexts (s : ScreenForm) : List (List Char) :=
  s.fields ++ s.filters ++ s.actions ++
    s.steps.flatMap (fun step => step.name :: step.fields) ++
    s.widgets.map WidgetForm.label

/- No quoted text runs over the end of its line. -/
def IsOneLine (s : ScreenForm) : Prop :=
  ∀ text ∈ s.quotedTexts, '\n' ∉ text

end ScreenForm

end Blueprint

------------------------------------------------------------
-- Properties
------------------------------------------------------------

namespace Blueprint

open Text

namespace ScreenForm

variable {s : ScreenForm}

/- The property that a key means, at a line. -/
def property
    (s : ScreenForm)
    (file : String)
    (number : Nat) : ScreenKey → ScreenProperty
| .kind => .kind (ScreenKind.ofWord (String.ofList s.kind))
| .entity => .entity (s.entity.map String.ofList)
| .action => .action (s.action.map String.ofList)
| .fields => .fields (s.fields.map String.ofList)
| .filters => .filters (s.filters.map String.ofList)
| .actions => .actions (s.actions.map String.ofList)
| .steps => .steps (s.stepsBelow file number)
| .widgets => .widgets (s.widgetsBelow file number)

/- The block of a key, at a line. -/
def keyBlock
    (s : ScreenForm)
    (number : Nat)
    (k : ScreenKey) : Block where
  head := ⟨s.propertyText k, 1, number⟩
  body := linesFrom (number + 1)
    ((s.nested k).map (indented 2))

/- Values are solid, unless there is none. -/
theorem isSolid_value
    (hWritable : s.IsWritable)
    {k : ScreenKey}
    (hSome : s.value k ≠ []) :
    IsSolid (s.value k) := by
  cases k with
  | kind => exact isSolid_of_isIdentifier hWritable.kind
  | entity =>
      cases hEntity : s.entity with
      | none => simp [value, hEntity] at hSome
      | some text =>
          have hText := (hWritable.entity text hEntity).1
          simpa [value, hEntity] using hText
  | action =>
      cases hAction : s.action with
      | none => simp [value, hAction] at hSome
      | some text =>
          have hText := (hWritable.action text hAction).1
          simpa [value, hAction] using hText
  | fields | filters | actions => exact isSolid_listText _
  | steps | widgets => exact absurd rfl hSome

/- The key and the value of a line are read back. -/
theorem property?_propertyText
    (hWritable : s.IsWritable)
    (k : ScreenKey) :
    property? (s.propertyText k) =
      some (k.word.toList, s.value k) := by
  have hKey := k.isIdentifier_word
  have hCut : cutAt (· == ':') (s.propertyText k) =
      some (k.word.toList,
        if s.value k = [] then [] else ' ' :: s.value k) :=
    cutAt_identifier_append _ hKey (by decide)
  have hValue : trim
      (if s.value k = [] then [] else ' ' :: s.value k) =
        s.value k := by
    split
    · rename_i hNone
      rw [hNone]
      rfl
    · rename_i hSome
      rw [trim_cons_of_blank _ (by decide),
        (isSolid_value hWritable hSome).trim_eq]
  rw [property?, hCut]
  dsimp only
  rw [(isSolid_of_isIdentifier hKey).trim_eq, hKey, hValue]
  rfl

/- What stands below a key is the line of its row. -/
theorem ofRow?_nested
    {k : ScreenKey}
    {text : List Char}
    (number : Nat)
    (hMem : text ∈ s.nested k) :
    Line.ofRow? number (indented 2 text) =
      some ⟨text, 2, number⟩ := by
  have hQuote : some '"' ≠ some '#' := by decide
  cases k with
  | steps =>
      rcases List.mem_map.mp hMem with ⟨step, _, rfl⟩
      exact ofRow?_indented number 2 step.isSolid_text hQuote
  | widgets =>
      rcases List.mem_map.mp hMem with ⟨w, _, rfl⟩
      exact ofRow?_indented number 2 w.isSolid_text hQuote
  | _ => cases hMem

/- The steps below a line are read back. -/
theorem mapM_ofLine_steps
    (file : String)
    (number : Nat)
    (hWritable : s.IsWritable) :
    (s.keyBlock number .steps).body.mapM
        (WizardStep.ofLine file) =
      .ok (s.stepsBelow file number) := by
  rw [keyBlock, nested, List.map_map]
  exact mapM_linesFrom (number + 1)
    (fun _ hMem n =>
      ofRow?_nested (k := .steps) n (List.mem_map_of_mem hMem))
    (fun step hMem n =>
      StepForm.ofLine_text file n (hWritable.steps step hMem))

/- The widgets below a line are read back. -/
theorem mapM_ofLine_widgets
    (file : String)
    (number : Nat)
    (hWritable : s.IsWritable) :
    (s.keyBlock number .widgets).body.mapM
        (Widget.ofLine file) =
      .ok (s.widgetsBelow file number) := by
  rw [keyBlock, nested, List.map_map]
  exact mapM_linesFrom (number + 1)
    (fun _ hMem n =>
      ofRow?_nested (k := .widgets) n
        (List.mem_map_of_mem hMem))
    (fun w hMem n =>
      WidgetForm.ofLine_text file n (hWritable.widgets w hMem))

/- The text of an optional value is read as such. -/
theorem nonempty?_getD
    {text : Option (List Char)}
    (hText : ∀ t ∈ text, IsSolid t) :
    nonempty? (text.getD []) = text.map String.ofList := by
  cases text with
  | none => rfl
  | some t =>
      have hSome : ¬ t.isEmpty = true := by
        simpa using (hText t rfl).ne_nil
      rw [Option.getD_some, nonempty?, if_neg hSome]
      rfl

/- The parts of a property are read back by its key. -/
theorem ofParts_keyBlock
    (file : String)
    (number : Nat)
    (hWritable : s.IsWritable)
    (k : ScreenKey) :
    ScreenProperty.ofParts file k.word (s.value k)
        (s.keyBlock number k) =
      .ok (s.property file number k) := by
  cases k with
  | kind => rfl
  | entity =>
      have hValue := nonempty?_getD fun text hMem =>
        (hWritable.entity text hMem).1
      exact congrArg (Except.ok ∘ ScreenProperty.entity) hValue
  | action =>
      have hValue := nonempty?_getD fun text hMem =>
        (hWritable.action text hMem).1
      exact congrArg (Except.ok ∘ ScreenProperty.action) hValue
  | fields =>
      have hList := readList_listText hWritable.fields
      dsimp only [ScreenKey.word, ScreenProperty.ofParts, value]
      rw [hList]
      rfl
  | filters =>
      have hList := readList_listText hWritable.filters
      dsimp only [ScreenKey.word, ScreenProperty.ofParts, value]
      rw [hList]
      rfl
  | actions =>
      have hList := readList_listText hWritable.actions
      dsimp only [ScreenKey.word, ScreenProperty.ofParts, value]
      rw [hList]
      rfl
  | steps =>
      have hSteps := mapM_ofLine_steps file number hWritable
      dsimp only [ScreenKey.word, ScreenProperty.ofParts]
      rw [hSteps]
      rfl
  | widgets =>
      have hWidgets :=
        mapM_ofLine_widgets file number hWritable
      dsimp only [ScreenKey.word, ScreenProperty.ofParts]
      rw [hWidgets]
      rfl

/- Only two keys have lines below them. -/
theorem contains_nestingKeys
    {k : ScreenKey}
    (hNested : s.nested k ≠ []) :
    ScreenProperty.nestingKeys.contains k.word = true := by
  cases k with
  | steps | widgets => decide
  | _ => exact absurd rfl hNested

/- The block of a key is read as the property that it means. -/
theorem ofBlock_keyBlock
    (file screen : String)
    (number : Nat)
    (hWritable : s.IsWritable)
    (k : ScreenKey) :
    ScreenProperty.ofBlock file screen 1
        (s.keyBlock number k) =
      .ok (s.property file number k) := by
  have hProperty := property?_propertyText hWritable k
  have hParts := ofParts_keyBlock file number hWritable k
  have hNested : (s.keyBlock number k).body ≠ [] →
      ScreenProperty.nestingKeys.contains k.word = true := by
    intro hSome
    apply contains_nestingKeys
    intro hNone
    apply hSome
    rw [keyBlock, hNone]
    rfl
  have hHead : (s.keyBlock number k).head =
      ⟨s.propertyText k, 1, number⟩ :=
    rfl
  unfold ScreenProperty.ofBlock
  rw [hHead]
  dsimp only
  rw [hProperty]
  dsimp only
  rw [String.ofList_toList]
  cases hBody : (s.keyBlock number k).body with
  | nil => exact hParts
  | cons line more =>
      dsimp only
      rw [hNested (by simp [hBody])]
      exact hParts

end ScreenForm

end Blueprint
