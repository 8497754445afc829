import Blueprint.Proofs.Places.Lines

/-
  What declarations keep of their bodies. Every line of a
  body is read, but of the lines with one key the last one
  decides: it takes the place of those before it. So nothing
  is lost exactly where keys come again with what they had.

  Main definitions:
    * `SetsByKey`, `KeptByKey`
    * `NestedKept`
    * `BodiesKept`

  Main statements:
    * `SetsByKey.shown?_foldl`
    * `SetsByKey.keptByKey`
    * `bodiesKept_parse`
    * `not_kept_lossySpec`
-/

------------------------------------------------------------
-- Items Set by Key
------------------------------------------------------------

namespace Blueprint

variable {ρ σ α : Type}

/- Setting an item shows it under its key, and only there. -/
structure SetsByKey
    (key : α → String)
    (shown? : σ → String → Option α)
    (set : σ → α → σ) : Prop where
  same : ∀ s a, shown? (set s a) (key a) = some a
  other : ∀ s a k, key a ≠ k →
    shown? (set s a) k = shown? s k

/-
  What is shown of the items that were read from the rows of
  a body: under every key the last item with it, and what
  was there before if there is none. So all items are shown
  if those with one key do not differ, and only then.
-/
structure KeptByKey
    (read : ρ → α → Prop)
    (written? : ρ → Option String)
    (key : α → String)
    (shown? before? : String → Option α)
    (rows : List ρ)
    (items : List α) : Prop where
  read : List.Forall₂
    (fun row a => read row a ∧ written? row = some (key a))
    rows items
  last : ∀ k,
    shown? k =
      ((items.filter fun a => key a == k).getLast?).or
        (before? k)
  kept_iff :
    (∀ a ∈ items, shown? (key a) = some a) ↔
      ∀ a ∈ items, ∀ b ∈ items, key a = key b → a = b

namespace SetsByKey

variable {key : α → String}
variable {shown? : σ → String → Option α}
variable {set : σ → α → σ}

/- Of all items with a key, the last one is shown. -/
theorem shown?_foldl
    (h : SetsByKey key shown? set)
    (items : List α)
    (s : σ)
    (k : String) :
    shown? (items.foldl set s) k =
      ((items.filter fun a => key a == k).getLast?).or
        (shown? s k) := by
  induction items generalizing s with
  | nil => rfl
  | cons a items ih =>
      rw [List.foldl_cons, ih]
      by_cases hKey : key a = k
      · rw [List.filter_cons_of_pos (by simpa using hKey),
          List.getLast?_cons, ← hKey, h.same]
        cases (items.filter fun b => key b == key a).getLast?
        all_goals rfl
      · rw [List.filter_cons_of_neg (by simpa using hKey),
          h.other s a k hKey]

/- An item of a key is shown, but not always the wanted one. -/
theorem exists_shown?_foldl
    (h : SetsByKey key shown? set)
    {items : List α}
    {a : α}
    (hMem : a ∈ items)
    (s : σ) :
    ∃ b ∈ items, key b = key a ∧
      shown? (items.foldl set s) (key a) = some b := by
  have hFound : a ∈ items.filter fun b => key b == key a := by
    simpa using hMem
  cases hLast :
      (items.filter fun b => key b == key a).getLast? with
  | none =>
      rw [List.getLast?_eq_none_iff] at hLast
      rw [hLast] at hFound
      cases hFound
  | some b =>
      have hLastMem := List.mem_of_getLast? hLast
      rw [List.mem_filter, beq_iff_eq] at hLastMem
      refine ⟨b, hLastMem.1, hLastMem.2, ?_⟩
      rw [h.shown?_foldl, hLast, Option.some_or]

/- What is shown was read, or it was there before. -/
theorem exists_row_of_shown?_foldl
    {read : ρ → α → Prop}
    {rows : List ρ}
    {items : List α}
    {s : σ}
    {k : String}
    {a : α}
    (h : SetsByKey key shown? set)
    (hRead : List.Forall₂ read rows items)
    (hShown : shown? (items.foldl set s) k = some a) :
    (∃ row ∈ rows, read row a) ∨ shown? s k = some a := by
  rw [h.shown?_foldl, Option.or_eq_some_iff] at hShown
  rcases hShown with hLast | ⟨_, hBefore⟩
  · left
    exact exists_source_of_forall₂ hRead a
      (List.mem_of_mem_filter (List.mem_of_getLast? hLast))
  · exact .inr hBefore

/- All items are shown if those with one key do not differ. -/
theorem forall_shown?_foldl_iff
    (h : SetsByKey key shown? set)
    (items : List α)
    (s : σ) :
    (∀ a ∈ items,
        shown? (items.foldl set s) (key a) = some a) ↔
      ∀ a ∈ items, ∀ b ∈ items, key a = key b → a = b := by
  constructor
  · intro hShown a hA b hB hKey
    have hSame := hShown b hB
    rw [← hKey, hShown a hA, Option.some_inj] at hSame
    exact hSame
  · intro hAgree a hMem
    rcases h.exists_shown?_foldl hMem s with
      ⟨b, hB, hKey, hLast⟩
    rw [hLast, hAgree b hB a hMem hKey]

/- Items that were read and set one by one are kept by key. -/
theorem keptByKey
    {read : ρ → α → Prop}
    (written? : ρ → Option String)
    {rows : List ρ}
    {items : List α}
    (h : SetsByKey key shown? set)
    (hRead : List.Forall₂ read rows items)
    (hWritten : ∀ row a, read row a →
      written? row = some (key a))
    (s : σ) :
    KeptByKey read written? key (shown? (items.foldl set s))
      (shown? s) rows items where
  read := hRead.imp fun row a hRow =>
    ⟨hRow, hWritten row a hRow⟩
  last := h.shown?_foldl items s
  kept_iff := h.forall_shown?_foldl_iff items s

end SetsByKey

end Blueprint

------------------------------------------------------------
-- Properties of Screens
------------------------------------------------------------

namespace Blueprint

open Text

variable {file : String}
variable {b : Block}

/- The key that a line writes before its first colon. -/
def Line.key? (line : Line) : Option String :=
  (property? line.text).map fun p => String.ofList p.1

/- The key of a property of a screen. -/
def ScreenProperty.key : ScreenProperty → String
| .kind _ => "kind"
| .entity _ => "entity"
| .action _ => "action"
| .fields _ => "fields"
| .filters _ => "filters"
| .actions _ => "actions"
| .steps _ => "steps"
| .widgets _ => "widgets"

namespace ScreenParts

/- What the parts of a screen have under a key. -/
def shown?
    (parts : ScreenParts) : String → Option ScreenProperty
| "kind" => parts.kind.map .kind
| "entity" => some (.entity parts.entity)
| "action" => some (.action parts.primaryAction)
| "fields" => some (.fields parts.fields)
| "filters" => some (.filters parts.filters)
| "actions" => some (.actions parts.actions)
| "steps" => some (.steps parts.steps)
| "widgets" => some (.widgets parts.widgets)
| _ => none

theorem setsByKey :
    SetsByKey ScreenProperty.key shown? set where
  same := by
    intro parts p
    cases p <;> rfl
  other := by
    intro parts p k hKey
    cases p <;> unfold shown? <;> split <;>
      first | rfl | exact absurd rfl hKey

end ScreenParts

namespace Screen

/- The parts that a screen was made of. -/
def parts (s : Screen) : ScreenParts where
  kind := some s.kind
  entity := s.entity
  fields := s.fields
  filters := s.filters
  actions := s.actions
  primaryAction := s.primaryAction
  steps := s.steps
  widgets := s.widgets

/- The property lines of a body with their nested lines. -/
def rows (b : Block) : List Block :=
  blocks (bodyLevel b.body) b.body

/- A screen is made of the properties of its rows. -/
theorem exists_properties_of_ofBlock
    {rest : List Char}
    {s : Screen}
    (h : Screen.ofBlock file rest b = .ok s) :
    ∃ properties,
      List.Forall₂
        (fun row p => ScreenProperty.ofBlock file s.name
          (bodyLevel b.body) row = .ok p)
        (rows b) properties ∧
      s.parts = properties.foldl ScreenParts.set {} := by
  rcases exists_of_bind_eq_ok h with ⟨name, _, hBody⟩
  rcases exists_of_bind_eq_ok hBody with
    ⟨properties, hMap, hScreen⟩
  refine ⟨properties, ?_⟩
  dsimp only at hScreen
  split at hScreen
  · rename_i screen hParts
    cases hScreen
    rcases Option.map_eq_some_iff.mp hParts with
      ⟨kind, hKind, rfl⟩
    refine ⟨forall₂_of_mapM hMap, ?_⟩
    rw [parts, ← hKind]
  · cases hScreen

end Screen

namespace ScreenProperty

theorem key_of_ofParts
    {key : String}
    {value : List Char}
    {p : ScreenProperty}
    (h : ofParts file key value b = .ok p) :
    p.key = key := by
  have hList : ∀ {build : List String → ScreenProperty},
      b.head.blame file ((readList value).map build) = .ok p →
        ∃ names, build names = p := by
    intro build hBlame
    rcases Declaration.exists_of_map_eq_ok
      (eq_ok_of_blame hBlame) with ⟨names, _, hBuild⟩
    exact ⟨names, hBuild⟩
  unfold ofParts at h
  dsimp only at h
  split at h
  case h_1 | h_2 | h_3 =>
      cases h
      rfl
  case h_4 | h_5 | h_6 =>
      rcases hList h with ⟨names, rfl⟩
      rfl
  case h_7 | h_8 =>
      rcases exists_of_bind_eq_ok h with ⟨_, _, hRest⟩
      rcases exists_of_bind_eq_ok hRest with ⟨_, _, hAll⟩
      cases hAll
      rfl
  case h_9 => cases h

theorem key?_of_ofBlock
    {screen : String}
    {level : Nat}
    {p : ScreenProperty}
    (h : ofBlock file screen level b = .ok p) :
    b.head.key? = some p.key := by
  rcases exists_parts_of_ofBlock h with
    ⟨key, value, hKey, hParts⟩
  rw [Line.key?, hKey, Option.map_some, key_of_ofParts hParts]

end ScreenProperty

end Blueprint

------------------------------------------------------------
-- Properties of Integrations
------------------------------------------------------------

namespace Blueprint

open Text

/- The key of a property of an integration. -/
def IntegrationProperty.key : IntegrationProperty → String
| .endpoint _ => "endpoint"
| .purpose _ => "purpose"

theorem IntegrationProperty.key?_of_ofLine
    {file : String}
    {line : Line}
    {p : IntegrationProperty}
    (h : ofLine file line = .ok p) :
    line.key? = some p.key := by
  have hText := eq_ok_of_blame h
  unfold ofText at hText
  unfold Line.key?
  split at hText
  · cases hText
  · rename_i key value hKey
    rw [hKey, Option.map_some]
    dsimp only at hText
    split at hText
    · rename_i hWord
      cases hText
      rw [hWord, IntegrationProperty.key]
    · rename_i hWord
      cases hText
      rw [hWord, IntegrationProperty.key]
    · cases hText

namespace Integration

/- What an integration has under a key. -/
def shown?
    (i : Integration) : String → Option IntegrationProperty
| "endpoint" => i.endpoint.map .endpoint
| "purpose" => i.purpose.map .purpose
| _ => none

/- Nothing is shown of an integration without properties. -/
theorem shown?_of_none
    (name : String)
    (location : Location) :
    shown? ⟨name, none, none, location⟩ = fun _ => none := by
  funext k
  unfold shown?
  split <;> rfl

theorem setsByKey :
    SetsByKey IntegrationProperty.key shown? set where
  same := by
    intro i p
    cases p <;> rfl
  other := by
    intro i p k hKey
    cases p <;> unfold shown? <;> split <;>
      first | rfl | exact absurd rfl hKey

end Integration

end Blueprint

------------------------------------------------------------
-- Modifiers of Fields
------------------------------------------------------------

namespace Blueprint

open Text

namespace Modifier

/- The key of a modifier. -/
def key : Modifier → String
| .required => "required"
| .unique => "unique"
| .min _ => "min"
| .max _ => "max"
| .pattern _ => "pattern"
| .default _ => "default"

/- The key that an item of a field line writes. -/
def writtenKey (item : List Char) : String :=
  match cutAt (· == '=') item with
  | none => String.ofList item
  | some (word, _) => String.ofList (trim word)

theorem writtenKey_of_ofItem
    {field : String}
    {item : List Char}
    {m : Modifier}
    (h : ofItem field item = .ok m) :
    writtenKey item = m.key := by
  have hBound : ∀ {name : String} {value : List Char}
      {build : Int64 → Modifier},
      (readBound field name value).map build = .ok m →
        ∃ bound, build bound = m := by
    intro name value build hMap
    rcases Declaration.exists_of_map_eq_ok hMap with
      ⟨bound, _, hBuild⟩
    exact ⟨bound, hBuild⟩
  unfold ofItem at h
  unfold writtenKey
  cases hCut : cutAt (· == '=') item with
  | none =>
      rw [hCut] at h
      dsimp only at h ⊢
      unfold ofWord at h
      split at h
      case h_1 hWord | h_2 hWord =>
          cases h
          exact hWord
      case h_3 | h_4 => cases h
  | some assigned =>
      rw [hCut] at h
      dsimp only at h ⊢
      unfold ofAssignment at h
      split at h
      case h_1 hWord | h_2 hWord =>
          rcases hBound h with ⟨bound, rfl⟩
          exact hWord
      case h_3 hWord | h_4 hWord =>
          cases h
          exact hWord
      case h_5 => cases h

end Modifier

namespace Modifiers

/- What the modifiers of a field have under a key. -/
def shown?
    (ms : Modifiers) : String → Option Modifier
| "required" => if ms.required then some .required else none
| "unique" => if ms.unique then some .unique else none
| "min" => ms.min.map .min
| "max" => ms.max.map .max
| "pattern" => ms.pattern.map .pattern
| "default" => ms.default.map .default
| _ => none

/- Nothing is shown where there are no modifiers. -/
theorem shown?_empty :
    shown? {} = fun _ => none := by
  funext k
  unfold shown?
  split <;> rfl

theorem setsByKey :
    SetsByKey Modifier.key shown? set where
  same := by
    intro ms m
    cases m <;> rfl
  other := by
    intro ms m k hKey
    cases m <;> unfold shown? <;> split <;>
      first | rfl | exact absurd rfl hKey

end Modifiers

/- The items of the modifiers on the line of a field. -/
def modifierItems (text : List Char) : List (List Char) :=
  match cutAt (· == ':') text with
  | none => []
  | some (_, specification) =>
      match cutTopLevel ',' (trim specification) with
      | none => []
      | some (_, modifiers) => topLevelItems (trim modifiers)

theorem Field.exists_modifiers_of_ofLine
    {file : String}
    {line : Line}
    {f : Field}
    (h : ofLine file line = .ok f) :
    ∃ ms,
      List.Forall₂
        (fun item m => Modifier.ofItem f.name item = .ok m)
        (modifierItems line.text) ms ∧
      f.modifiers = ms.foldl Modifiers.set {} := by
  have hText := eq_ok_of_blame h
  unfold ofText at hText
  unfold modifierItems
  cases hCut : cutAt (· == ':') line.text with
  | none =>
      rw [hCut] at hText
      cases hText
  | some parts =>
      rw [hCut] at hText
      dsimp only at hText ⊢
      split at hText
      · cases hText
      · split at hText
        · cases hText
        · rcases exists_of_bind_eq_ok hText with
            ⟨modifiers, hModifiers, hField⟩
          cases hField
          rcases exists_of_bind_eq_ok hModifiers with
            ⟨ms, hMap, hSet⟩
          cases hSet
          refine ⟨ms, ?_, rfl⟩
          cases hTop : cutTopLevel ',' (trim parts.2) with
          | none =>
              rw [hTop] at hMap
              exact forall₂_of_mapM hMap
          | some inner =>
              rw [hTop] at hMap
              exact forall₂_of_mapM hMap

end Blueprint

------------------------------------------------------------
-- Nested Lines
------------------------------------------------------------

namespace Blueprint

variable {α : Type}

/- An item was read from a line, and it stands there. -/
def ReadsAt
    (read : Line → Except Fault α)
    (place : α → Location)
    (file : String)
    (line : Line)
    (a : α) : Prop :=
  read line = .ok a ∧ place a = line.location file

instance
    [DecidableEq α]
    (read : Line → Except Fault α)
    (place : α → Location)
    (file : String)
    (line : Line)
    (a : α) :
    Decidable (ReadsAt read place file line a) :=
  inferInstanceAs (Decidable (_ ∧ _))

namespace Screen

/- The rows of the body of a screen that write a key. -/
def rowsWith (key : String) (b : Block) : List Block :=
  (rows b).filter fun row => row.head.key? == some key

/- The lines below the last row with a key. -/
def lastLines (key : String) (b : Block) : List Line :=
  ((rowsWith key b).getLast?.map Block.body).getD []

/- The lines below all rows with a key. -/
def nestedLines (key : String) (b : Block) : List Line :=
  (rowsWith key b).flatMap Block.body

/- There are no others if the rows before the last have none. -/
theorem nestedLines_eq_append
    (key : String)
    (b : Block) :
    nestedLines key b =
      (rowsWith key b).dropLast.flatMap Block.body ++
        lastLines key b := by
  unfold nestedLines lastLines
  cases hLast : (rowsWith key b).getLast? with
  | none =>
      rw [List.getLast?_eq_none_iff] at hLast
      rw [hLast]
      rfl
  | some row =>
      have hRows :=
        List.dropLast_append_getLast? row hLast
      conv_lhs => rw [← hRows]
      rw [List.flatMap_append, List.flatMap_singleton]
      rfl

end Screen

/-
  The lines below the last row with a key are read one by
  one, each at its own place. The lines below all rows with
  the key are if only the last one has any.
-/
structure NestedKept
    (reads : Line → α → Prop)
    (key : String)
    (b : Block)
    (items : List α) : Prop where
  last : List.Forall₂ reads (Screen.lastLines key b) items
  all_iff :
    List.Forall₂ reads (Screen.nestedLines key b) items ↔
      ∀ row ∈ (Screen.rowsWith key b).dropLast, row.body = []

theorem NestedKept.of_last
    {reads : Line → α → Prop}
    {key : String}
    {b : Block}
    {items : List α}
    (h : List.Forall₂ reads (Screen.lastLines key b) items) :
    NestedKept reads key b items where
  last := h
  all_iff := by
    rw [Screen.nestedLines_eq_append,
      ← List.flatMap_eq_nil_iff]
    constructor
    · intro hAll
      have hLength := hAll.length_eq
      rw [← h.length_eq, List.length_append] at hLength
      rw [← List.length_eq_zero_iff]
      omega
    · intro hNil
      rwa [hNil, List.nil_append]

/- Of related lists, the last items are related. -/
theorem getLast?_rel_of_forall₂
    {β : Type}
    {R : α → β → Prop}
    {xs : List α}
    {ys : List β}
    (h : List.Forall₂ R xs ys) :
    Option.Rel R xs.getLast? ys.getLast? := by
  induction h with
  | nil => exact .none
  | @cons _ _ xs ys hFirst _ ih =>
      rw [List.getLast?_cons, List.getLast?_cons]
      generalize xs.getLast? = x at ih ⊢
      generalize ys.getLast? = y at ih ⊢
      cases ih with
      | none => exact .some hFirst
      | some hLast => exact .some hLast

namespace ScreenProperty

variable {file screen : String}
variable {level : Nat}
variable {row : Block}
variable {p : ScreenProperty}

/- Nested lines are read one by one, each at its place. -/
theorem exists_nested_of_bind
    {key : String}
    {value : List Char}
    {read : Line → Except Fault α}
    {place : α → Location}
    {build : List α → ScreenProperty}
    (hPlace : ∀ line a, read line = .ok a →
      place a = line.location file)
    (h : (do
      row.head.blame file (checkNoValue key value)
      let items ← row.body.mapM read
      return build items) = Except.ok p) :
    ∃ items, p = build items ∧
      List.Forall₂ (ReadsAt read place file)
        row.body items := by
  rcases exists_of_bind_eq_ok h with ⟨_, _, hRest⟩
  rcases exists_of_bind_eq_ok hRest with ⟨items, hMap, hAll⟩
  cases hAll
  exact ⟨items, rfl, (forall₂_of_mapM hMap).imp
    fun line a hRead => ⟨hRead, hPlace line a hRead⟩⟩

/- The steps below a key are read from the lines below it. -/
theorem exists_steps_of_ofBlock
    (h : ofBlock file screen level row = .ok p)
    (hKey : p.key = "steps") :
    ∃ steps, p = .steps steps ∧
      List.Forall₂
        (ReadsAt (WizardStep.ofLine file)
          WizardStep.location file)
        row.body steps := by
  rcases exists_parts_of_ofBlock h with ⟨key, _, _, hParts⟩
  rw [← key_of_ofParts hParts, hKey] at hParts
  exact exists_nested_of_bind
    (fun _ _ => WizardStep.location_of_ofLine) hParts

/- So are the widgets. -/
theorem exists_widgets_of_ofBlock
    (h : ofBlock file screen level row = .ok p)
    (hKey : p.key = "widgets") :
    ∃ widgets, p = .widgets widgets ∧
      List.Forall₂
        (ReadsAt (Widget.ofLine file) Widget.location file)
        row.body widgets := by
  rcases exists_parts_of_ofBlock h with ⟨key, _, _, hParts⟩
  rw [← key_of_ofParts hParts, hKey] at hParts
  exact exists_nested_of_bind
    (fun _ _ => Widget.location_of_ofLine) hParts

end ScreenProperty

/-
  Where the last property with a key is shown, and gives
  what the lines below its row are read as, these are kept.
-/
theorem NestedKept.of_shown
    {file screen key : String}
    {b : Block}
    {properties : List ScreenProperty}
    {reads : Line → α → Prop}
    {build : List α → ScreenProperty}
    {items : List α}
    (hBuild : Function.Injective build)
    (hRows : List.Forall₂
      (fun row p => ScreenProperty.ofBlock file screen
        (Screen.bodyLevel b.body) row = .ok p)
      (Screen.rows b) properties)
    (hEach : ∀ row p,
      ScreenProperty.ofBlock file screen
          (Screen.bodyLevel b.body) row = .ok p →
        p.key = key →
          ∃ read, p = build read ∧
            List.Forall₂ reads row.body read)
    (hShown : some (build items) =
      ((properties.filter fun p =>
        p.key == key).getLast?).or (some (build []))) :
    NestedKept reads key b items := by
  have hLast := getLast?_rel_of_forall₂
    (List.rel_filter (p := fun row =>
        row.head.key? == some key)
      (q := fun p => p.key == key) (by
        intro row p hRead
        dsimp only
        rw [ScreenProperty.key?_of_ofBlock hRead]
        simp) hRows)
  apply NestedKept.of_last
  unfold Screen.lastLines Screen.rowsWith
  generalize ((Screen.rows b).filter fun row =>
    row.head.key? == some key).getLast? = row? at hLast ⊢
  cases hFound : (properties.filter fun p =>
      p.key == key).getLast? with
  | none =>
      rw [hFound] at hLast hShown
      cases hLast
      rw [Option.none_or, Option.some_inj] at hShown
      rw [hBuild hShown]
      exact .nil
  | some p =>
      have hMem := List.mem_of_getLast? hFound
      rw [List.mem_filter, beq_iff_eq] at hMem
      rw [hFound] at hLast hShown
      cases hLast with
      | some hRead =>
          rcases hEach _ p hRead hMem.2 with ⟨read, rfl, hAll⟩
          rw [Option.some_or, Option.some_inj] at hShown
          rw [hBuild hShown]
          exact hAll

end Blueprint

------------------------------------------------------------
-- Bodies of a Document
------------------------------------------------------------

namespace Blueprint

/- What a screen keeps of its body. -/
structure Screen.BodyKept
    (file : String)
    (b : Block)
    (s : Screen) : Prop where
  properties : ∃ properties,
    KeptByKey
      (fun row p => ScreenProperty.ofBlock file s.name
        (bodyLevel b.body) row = .ok p)
      (fun row => row.head.key?)
      ScreenProperty.key s.parts.shown?
      ({} : ScreenParts).shown?
      (rows b) properties
  steps : NestedKept
    (ReadsAt (WizardStep.ofLine file) WizardStep.location
      file)
    "steps" b s.steps
  widgets : NestedKept
    (ReadsAt (Widget.ofLine file) Widget.location file)
    "widgets" b s.widgets

/- What an integration keeps of its body. -/
def Integration.BodyKept
    (file : String)
    (b : Block)
    (i : Integration) : Prop :=
  ∃ properties,
    KeptByKey
      (fun line p => IntegrationProperty.ofLine file line = .ok p)
      Line.key? IntegrationProperty.key i.shown?
      (fun _ => none) b.body properties

/- What a field keeps of the modifiers on its line. -/
def Field.ModifiersKept
    (line : Line)
    (f : Field) : Prop :=
  ∃ ms,
    KeptByKey
      (fun item m => Modifier.ofItem f.name item = .ok m)
      (fun item => some (Modifier.writtenKey item))
      Modifier.key f.modifiers.shown?
      (fun _ => none) (modifierItems line.text) ms

/- The blocks of a document that open a kind. -/
def blocksOf (source : String) (k : Keyword) : List Block :=
  (documentBlocks source).filter (·.head.opens k)

/-
  What a document that was read keeps of its bodies: its
  screens and integrations keep the last line of each key,
  its fields the last modifier of each key.
-/
structure BodiesKept
    (file source : String)
    (spec : Spec) : Prop where
  screens : List.Forall₂ (Screen.BodyKept file)
    (blocksOf source .screen) spec.screens
  integrations : List.Forall₂ (Integration.BodyKept file)
    (blocksOf source .integration) spec.integrations
  fields : List.Forall₂
    (fun b e => List.Forall₂ Field.ModifiersKept
      b.body e.fields)
    (blocksOf source .entity) spec.entities

variable {file : String}
variable {b : Block}
variable {rest : List Char}

theorem Screen.bodyKept_of_ofBlock
    {s : Screen}
    (h : Screen.ofBlock file rest b = .ok s) :
    s.BodyKept file b := by
  rcases exists_properties_of_ofBlock h with
    ⟨properties, hRead, hParts⟩
  have hKept := ScreenParts.setsByKey.keptByKey
    (fun row : Block => row.head.key?) hRead
    (fun _ _ => ScreenProperty.key?_of_ofBlock) {}
  rw [← hParts] at hKept
  constructor
  case properties => exact ⟨properties, hKept⟩
  case steps =>
      exact .of_shown (fun _ _ => ScreenProperty.steps.inj)
        hRead
        (fun _ _ => ScreenProperty.exists_steps_of_ofBlock)
        (hKept.last "steps")
  case widgets =>
      exact .of_shown (fun _ _ => ScreenProperty.widgets.inj)
        hRead
        (fun _ _ => ScreenProperty.exists_widgets_of_ofBlock)
        (hKept.last "widgets")

theorem Integration.bodyKept_of_ofBlock
    {i : Integration}
    (h : Integration.ofBlock file rest b = .ok i) :
    i.BodyKept file b := by
  rcases exists_of_flatBlock h with
    ⟨name, properties, _, hMap, rfl⟩
  refine ⟨properties, ?_⟩
  have hKept := setsByKey.keptByKey Line.key?
    (forall₂_of_mapM hMap)
    (fun _ _ => IntegrationProperty.key?_of_ofLine)
    ⟨name, none, none, b.head.location file⟩
  rwa [shown?_of_none] at hKept

theorem Field.modifiersKept_of_ofLine
    {line : Line}
    {f : Field}
    (h : Field.ofLine file line = .ok f) :
    f.ModifiersKept line := by
  rcases exists_modifiers_of_ofLine h with ⟨ms, hRead, hSet⟩
  refine ⟨ms, ?_⟩
  rw [hSet]
  have hKept := Modifiers.setsByKey.keptByKey
    (fun item => some (Modifier.writtenKey item)) hRead
    (fun _ _ hItem =>
      congrArg some (Modifier.writtenKey_of_ofItem hItem)) {}
  rwa [Modifiers.shown?_empty] at hKept

/-
  The declarations of a kind come from the blocks that open
  one, and what each keyword gives is handed on to them.
-/
theorem forall₂_of_parse
    {α : Type}
    {source : String}
    {spec : Spec}
    {k : Keyword}
    (wrap : α → Declaration)
    {items : List α}
    {R : Block → α → Prop}
    (h : Spec.parse file source = .ok spec)
    (hItems : spec.ofKind k = items.map wrap)
    (hKeyword : ∀ a, (wrap a).keyword = k)
    (hEach : ∀ b a,
      Declaration.ofKeyword file (splitKeyword b.head.text).2
        b k = .ok (wrap a) → R b a) :
    List.Forall₂ R (blocksOf source k) items := by
  have hAll := Spec.forall₂_ofKind h k
  rw [hItems, List.forall₂_map_right_iff] at hAll
  apply hAll.imp
  intro b a hRead
  apply hEach
  rw [← Declaration.ofBlock_of_opens ?_]
  · exact hRead
  · rw [(Declaration.gives_ofBlock b _ hRead).2 k, hKeyword]
    exact beq_self_eq_true k

/-
  In every document that is read, the last line of each key
  is kept, and an earlier one only if it says the same.
-/
theorem bodiesKept_parse
    {source : String}
    {spec : Spec}
    (h : Spec.parse file source = .ok spec) :
    BodiesKept file source spec where
  screens := by
    apply forall₂_of_parse .screen h rfl
      (fun _ => rfl)
    intro b s hRead
    rcases Declaration.exists_of_map_eq_ok hRead with
      ⟨_, hScreen, hSame⟩
    cases hSame
    exact Screen.bodyKept_of_ofBlock hScreen
  integrations := by
    apply forall₂_of_parse .integration h rfl
      (fun _ => rfl)
    intro b i hRead
    rcases Declaration.exists_of_map_eq_ok hRead with
      ⟨_, hIntegration, hSame⟩
    cases hSame
    exact Integration.bodyKept_of_ofBlock hIntegration
  fields := by
    apply forall₂_of_parse .entity h rfl
      (fun _ => rfl)
    intro b e hRead
    rcases Declaration.exists_of_map_eq_ok hRead with
      ⟨_, hEntity, hSame⟩
    cases hSame
    rcases exists_of_flatBlock hEntity with
      ⟨name, fields, _, hMap, rfl⟩
    exact (forall₂_of_mapM hMap).imp
      fun _ _ => Field.modifiersKept_of_ofLine

/- A document in which keys come again. -/
def lossySource : String :=
  "app \"T\"\nentity A\n  x: number, min=1, min=2\n" ++
    "screen S\n  kind: wizard\n" ++
    "  steps:\n    \"One\" → [x]\n" ++
    "  steps:\n    \"Two\" → [x]\n" ++
    "integration I\n  purpose: first\n  purpose: second\n"

/- What it declares. -/
def lossySpec : Spec where
  appName := "T"
  entities := [{
    name := "A"
    fields := [⟨"x", .scalar .number, { min := some 2 },
      ⟨"lossy", 3⟩⟩]
    location := ⟨"lossy", 2⟩ }]
  screens := [{
    name := "S"
    kind := .wizard
    entity := none
    fields := []
    filters := []
    actions := []
    primaryAction := none
    steps := [⟨"Two", ["x"], ⟨"lossy", 9⟩⟩]
    widgets := []
    location := ⟨"lossy", 4⟩ }]
  flows := []
  rules := []
  integrations :=
    [⟨"I", none, some "second", ⟨"lossy", 10⟩⟩]
  events := []

theorem parse_lossySource :
    Spec.parse "lossy" lossySource = .ok lossySpec := by
  decide +kernel

/- Its first steps, purpose and bound are lost. -/
theorem bodiesKept_parse_lossySpec :
    Spec.parse "lossy" lossySource = .ok lossySpec ∧
      BodiesKept "lossy" lossySource lossySpec :=
  ⟨parse_lossySource, bodiesKept_parse parse_lossySource⟩

/-
  Two lines are nested below the keys `steps`, of which one
  is no step of the screen, and of a purpose and of a bound
  that were read there is no trace.
-/
theorem not_kept_lossySpec :
    Spec.parse "lossy" lossySource = .ok lossySpec ∧
      (∃ b ∈ blocksOf lossySource .screen,
        ∃ s ∈ lossySpec.screens,
          ¬ List.Forall₂
            (ReadsAt (WizardStep.ofLine "lossy")
              WizardStep.location "lossy")
            (Screen.nestedLines "steps" b) s.steps) ∧
      (∃ line ∈ (blocksOf lossySource .integration).flatMap
          Block.body,
        ∃ i ∈ lossySpec.integrations,
          IntegrationProperty.ofLine "lossy" line =
              .ok (.purpose "first") ∧
            i.shown? "purpose" ≠ some (.purpose "first")) ∧
      ∃ line ∈ (blocksOf lossySource .entity).flatMap
          Block.body,
        ∃ f ∈ lossySpec.entities.flatMap Entity.fields,
          ∃ item ∈ modifierItems line.text,
            Modifier.ofItem f.name item = .ok (.min 1) ∧
              f.modifiers.shown? "min" ≠ some (.min 1) := by
  refine ⟨parse_lossySource, ?_⟩
  decide +kernel

end Blueprint
