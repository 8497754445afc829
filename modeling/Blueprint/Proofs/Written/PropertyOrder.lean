import Blueprint.Proofs.Written.Document
import Blueprint.Proofs.Written.Screen

/-
  Documents of a screen: whatever the order of its property
  lines is, the screen is read back as it is, with each step
  and each widget at its own line.

  Main definitions:
    * `ScreenForm.keyBlocks`
    * `ScreenParts.get`

  Main statements:
    * `ScreenForm.get_foldl_set`
    * `ScreenForm.ofBlock_block`, `ScreenForm.declares_block`
    * `ScreenForm.parse_document`
-/

------------------------------------------------------------
-- Blocks of Properties
------------------------------------------------------------

namespace Blueprint

open Text

namespace ScreenForm

variable {s : ScreenForm}

/- The blocks of the properties in an order, from a line on. -/
def keyBlocks
    (s : ScreenForm)
    (number : Nat) : List ScreenKey → List Block
| [] => []
| k :: order =>
    s.keyBlock number k ::
      keyBlocks s (number + (s.propertyRows k).length) order

/- The blocks of the properties are those of their keys. -/
theorem exists_of_mem_keyBlocks
    {number : Nat}
    {order : List ScreenKey}
    {b : Block}
    (hMem : b ∈ s.keyBlocks number order) :
    ∃ line k, b = s.keyBlock line k := by
  induction order generalizing number with
  | nil => cases hMem
  | cons k order ih =>
      rcases List.mem_cons.mp hMem with rfl | hMem
      · exact ⟨number, k, rfl⟩
      · exact ih hMem

/- The line of a key is solid. -/
theorem isSolid_propertyText
    (hWritable : s.IsWritable)
    (k : ScreenKey) :
    IsSolid (s.propertyText k) := by
  have hKey := isSolid_of_isIdentifier k.isIdentifier_word
  have hColon : IsSolid [':'] := isSolid_singleton (by decide)
  unfold propertyText
  dsimp only
  split
  · have hSolid := hKey.append hColon []
    rwa [List.append_nil] at hSolid
  · rename_i hSome
    have hSolid := hKey.append
      (isSolid_value hWritable hSome) [':', ' ']
    rwa [List.append_assoc] at hSolid

/- The rows of a key are the lines of its block. -/
theorem linesFrom_propertyRows
    (number : Nat)
    (hWritable : s.IsWritable)
    (k : ScreenKey) :
    linesFrom number (s.propertyRows k) =
      (s.keyBlock number k).lines := by
  have hMark : (s.propertyText k).head? ≠ some '#' := by
    cases k <;> exact show some _ ≠ some '#' by decide
  have hRow := ofRow?_indented number 1
    (isSolid_propertyText hWritable k) hMark
  exact linesFrom_cons_of_ofRow? _ hRow

/- The property lines are cut into the blocks of their keys. -/
theorem isCut_keyBlocks
    (number : Nat)
    (hWritable : s.IsWritable)
    (order : List ScreenKey) :
    IsCut 1
      (linesFrom number (order.flatMap s.propertyRows))
      (s.keyBlocks number order) where
  lines := by
    induction order generalizing number with
    | nil => rfl
    | cons k order ih =>
        rw [List.flatMap_cons, linesFrom_append,
          linesFrom_propertyRows number hWritable, ← ih]
        rfl
  bodies := by
    intro b hMem line hLine
    obtain ⟨number, k, rfl⟩ := exists_of_mem_keyBlocks hMem
    have hIndent : line.indent = 2 :=
      indent_of_mem_linesFrom (number + 1)
        (fun _ hText n => ofRow?_nested n hText) line hLine
    omega
  heads := by
    intro b hMem
    obtain ⟨number, k, rfl⟩ :=
      exists_of_mem_keyBlocks (List.mem_of_mem_tail hMem)
    exact Nat.le_refl 1

/- When no key is repeated, each has a line of its own. -/
theorem keyBlocks_eq_map
    (number : Nat)
    {order : List ScreenKey}
    (hOnce : order.Nodup) :
    s.keyBlocks number order =
      order.map fun k =>
        s.keyBlock (s.keyLine number order k) k := by
  induction order generalizing number with
  | nil => rfl
  | cons first order ih =>
      rw [List.nodup_cons] at hOnce
      have hFirst : s.keyLine number (first :: order) first =
          number := by
        simp [keyLine]
      have hRest : ∀ k ∈ order,
          s.keyLine (number + (s.propertyRows first).length)
              order k =
            s.keyLine number (first :: order) k := by
        intro k hMem
        have hOther : first ≠ k := by
          rintro rfl
          exact hOnce.1 hMem
        simp [keyLine, hOther, Nat.add_assoc]
      rw [keyBlocks, List.map_cons, hFirst, ih _ hOnce.2]
      congr 1
      apply List.map_congr_left
      intro k hMem
      rw [hRest k hMem]

end ScreenForm

end Blueprint

------------------------------------------------------------
-- Properties in Any Order
------------------------------------------------------------

namespace Blueprint

open Text

/- The property of a key among the parts of a screen. -/
def ScreenParts.get
    (parts : ScreenParts) : ScreenKey → Option ScreenProperty
| .kind => parts.kind.map .kind
| .entity => some (.entity parts.entity)
| .action => some (.action parts.primaryAction)
| .fields => some (.fields parts.fields)
| .filters => some (.filters parts.filters)
| .actions => some (.actions parts.actions)
| .steps => some (.steps parts.steps)
| .widgets => some (.widgets parts.widgets)

namespace ScreenForm

variable {s : ScreenForm}
variable {file : String}

/- A property is set at its key and nowhere else. -/
theorem get_set
    (parts : ScreenParts)
    (number : Nat)
    (k other : ScreenKey) :
    (parts.set (s.property file number k)).get other =
      if other = k then
        some (s.property file number k)
      else
        parts.get other := by
  cases k <;> cases other <;> rfl

/-
  After properties in any order, the one of a key is there
  if the key is among them, and else it is as before.
-/
theorem get_foldl_set
    (line : ScreenKey → Nat)
    (order : List ScreenKey)
    (parts : ScreenParts)
    (k : ScreenKey) :
    ((order.map fun other =>
        s.property file (line other) other).foldl
          ScreenParts.set parts).get k =
      if k ∈ order then
        some (s.property file (line k) k)
      else
        parts.get k := by
  induction order generalizing parts with
  | nil => rfl
  | cons first order ih =>
      rw [List.map_cons, List.foldl_cons, ih, get_set]
      by_cases hFirst : k = first
      · subst hFirst
        simp
      · simp [hFirst]

/- A property that is not needed is there from the start. -/
theorem get_of_not_isNeeded
    {k : ScreenKey}
    (line : Nat)
    (hNot : ¬ s.IsNeeded k) :
    ScreenParts.get {} k = some (s.property file line k) := by
  cases k <;>
    simp_all [IsNeeded, ScreenParts.get, property,
      stepsBelow, widgetsBelow]

/- With all of its properties, the screen is complete. -/
theorem toScreen?_of_get
    {parts : ScreenParts}
    {line : ScreenKey → Nat}
    (name : String)
    (location : Location)
    (hGet : ∀ k,
      parts.get k = some (s.property file (line k) k)) :
    parts.toScreen? name location = some {
      name := name
      kind := ScreenKind.ofWord (String.ofList s.kind)
      entity := s.entity.map String.ofList
      fields := s.fields.map String.ofList
      filters := s.filters.map String.ofList
      actions := s.actions.map String.ofList
      primaryAction := s.action.map String.ofList
      steps := s.stepsBelow file (line .steps)
      widgets := s.widgetsBelow file (line .widgets)
      location := location } := by
  have hKind := hGet .kind
  have hEntity := hGet .entity
  have hAction := hGet .action
  have hFields := hGet .fields
  have hFilters := hGet .filters
  have hActions := hGet .actions
  have hSteps := hGet .steps
  have hWidgets := hGet .widgets
  simp only [ScreenParts.get, property, Option.map_eq_some_iff,
    Option.some.injEq, ScreenProperty.kind.injEq,
    ScreenProperty.entity.injEq, ScreenProperty.action.injEq,
    ScreenProperty.fields.injEq, ScreenProperty.filters.injEq,
    ScreenProperty.actions.injEq, ScreenProperty.steps.injEq,
    ScreenProperty.widgets.injEq, exists_eq_right]
    at hKind hEntity hAction hFields hFilters hActions hSteps
      hWidgets
  rw [ScreenParts.toScreen?, hKind, hEntity, hAction, hFields,
    hFilters, hActions, hSteps, hWidgets]
  rfl

end ScreenForm

end Blueprint

------------------------------------------------------------
-- Blocks of Screens
------------------------------------------------------------

namespace Blueprint

open Text

/- What is read of every item is read of the list. -/
theorem mapM_eq_ok
    {ε α β γ : Type}
    {read : β → Except ε γ}
    {item : α → β}
    {give : α → γ}
    {sources : List α}
    (hRead : ∀ a ∈ sources, read (item a) = .ok (give a)) :
    (sources.map item).mapM read = .ok (sources.map give) := by
  induction sources with
  | nil => rfl
  | cons a sources ih =>
      have hFirst := hRead a List.mem_cons_self
      have hRest := ih fun other hMem =>
        hRead other (List.mem_cons_of_mem _ hMem)
      rw [List.map_cons, List.mapM_cons, hFirst, hRest]
      rfl

namespace ScreenForm

variable {s : ScreenForm}

/- The block of a screen that stands at a line. -/
def block
    (s : ScreenForm)
    (number : Nat) : Block where
  head := ⟨s.head, 0, number⟩
  body := linesFrom (number + 1)
    (s.order.flatMap s.propertyRows)

/- The property lines are one level deep. -/
theorem bodyLevel_block
    (number : Nat)
    (hWritable : s.IsWritable) :
    Screen.bodyLevel (s.block number).body = 1 := by
  have hKind := hWritable.needed .kind trivial
  rw [block]
  cases hOrder : s.order with
  | nil =>
      rw [hOrder] at hKind
      cases hKind
  | cons k order =>
      dsimp only
      rw [List.flatMap_cons, linesFrom_append,
        linesFrom_propertyRows _ hWritable]
      rfl

/- A written screen is read back from its block. -/
theorem ofBlock_block
    (file : String)
    (number : Nat)
    (hWritable : s.IsWritable) :
    Screen.ofBlock file s.name (s.block number) =
      .ok (s.screen file number) := by
  let line := s.keyLine (number + 1) s.order
  let property := fun k => s.property file (line k) k
  have hCut := isCut_keyBlocks (number + 1) hWritable s.order
  have hRead : (blocks 1 (s.block number).body).mapM
      (ScreenProperty.ofBlock file (String.ofList s.name) 1) =
        .ok (s.order.map property) := by
    have hBlocks : blocks 1 (s.block number).body =
        s.order.map fun k => s.keyBlock (line k) k := by
      rw [← keyBlocks_eq_map _ hWritable.once]
      exact hCut.eq_blocks.symm
    rw [hBlocks]
    exact mapM_eq_ok fun k _ =>
      ofBlock_keyBlock file _ (line k) hWritable k
  have hGet : ∀ k,
      ((s.order.map property).foldl ScreenParts.set {}).get k =
        some (property k) := by
    intro k
    rw [get_foldl_set]
    split
    · rfl
    · rename_i hAbsent
      apply get_of_not_isNeeded
      intro hNeeded
      exact hAbsent (hWritable.needed k hNeeded)
  have hScreen := toScreen?_of_get (String.ofList s.name)
    ⟨file, number⟩ hGet
  unfold Screen.ofBlock
  rw [readName_identifier _ hWritable.name,
    bodyLevel_block number hWritable]
  dsimp only [Line.blame, bind, Except.bind]
  rw [hRead]
  dsimp only
  have hPlace : (s.block number).head.location file =
      ⟨file, number⟩ :=
    rfl
  rw [hPlace, hScreen]
  rfl

/- The block of a screen declares that screen. -/
theorem declares_block
    (file : String)
    (number : Nat)
    (hWritable : s.IsWritable) :
    Declaration.ofBlock file (s.block number) =
      .ok (.screen (s.screen file number)) := by
  have hHead : (s.block number).head =
      ⟨Keyword.screen.word.toList ++ ' ' :: s.name, 0,
        number⟩ :=
    rfl
  have hRead := ofBlock_block file number hWritable
  rw [ofBlock_of_head file hWritable.name hHead,
    Declaration.ofKeyword, hRead]
  rfl

end ScreenForm

end Blueprint

------------------------------------------------------------
-- Rows of Screens
------------------------------------------------------------

namespace Blueprint

open Text

namespace ScreenForm

variable {s : ScreenForm}

/- Values are on one line. -/
theorem not_mem_value
    (hWritable : s.IsWritable)
    (hLine : s.IsOneLine)
    (k : ScreenKey) :
    '\n' ∉ s.value k := by
  have hQuoted : ∀ items : List (List Char),
      items ⊆ s.quotedTexts → '\n' ∉ listText items :=
    fun items hItems =>
      not_mem_listText fun item hMem =>
        hLine item (hItems hMem)
  cases k with
  | kind =>
      exact not_mem_of_isIdentifier hWritable.kind (by decide)
  | entity =>
      cases hEntity : s.entity with
      | none => simp [value, hEntity]
      | some text =>
          have hText := (hWritable.entity text hEntity).2
          simpa [value, hEntity] using hText
  | action =>
      cases hAction : s.action with
      | none => simp [value, hAction]
      | some text =>
          have hText := (hWritable.action text hAction).2
          simpa [value, hAction] using hText
  | fields | filters | actions =>
      apply hQuoted
      intro item hMem
      simp [quotedTexts, hMem]
  | steps | widgets => exact List.not_mem_nil

/- Lines below a key are on one line each. -/
theorem not_mem_of_mem_nested
    {k : ScreenKey}
    {text : List Char}
    (hWritable : s.IsWritable)
    (hLine : s.IsOneLine)
    (hMem : text ∈ s.nested k) :
    '\n' ∉ text := by
  cases k with
  | steps =>
      rcases List.mem_map.mp hMem with ⟨step, hStep, rfl⟩
      have hTexts : step.name :: step.fields ⊆
          s.quotedTexts := by
        intro text hText
        have hSome : text ∈ s.steps.flatMap
            (fun step => step.name :: step.fields) :=
          List.mem_flatMap.mpr ⟨step, hStep, hText⟩
        exact List.mem_append_left _
          (List.mem_append_right _ hSome)
      have hName := hLine step.name
        (hTexts List.mem_cons_self)
      have hFields := not_mem_listText fun item hItem =>
        hLine item (hTexts (List.mem_cons_of_mem _ hItem))
      have hArrow : '\n' ∉ " → ".toList := by decide
      exact List.not_mem_append
        (not_mem_inQuotes (by decide) hName)
        (List.not_mem_append hArrow hFields)
  | widgets =>
      rcases List.mem_map.mp hMem with ⟨w, hWidget, rfl⟩
      have hLabel := hLine w.label
        (List.mem_append_right _ (List.mem_map_of_mem hWidget))
      have hKind : '\n' ∉ w.kind :=
        not_mem_of_isIdentifier
          (hWritable.widgets w hWidget).kind (by decide)
      apply List.not_mem_append
        (not_mem_inQuotes (by decide) hLabel)
      simp [hKind]
  | _ => cases hMem

/- No row of a screen holds a line feed. -/
theorem not_mem_row
    (hWritable : s.IsWritable)
    (hLine : s.IsOneLine) :
    ∀ row ∈ s.rows, '\n' ∉ row := by
  intro row hMem
  rcases List.mem_cons.mp hMem with rfl | hMem
  · have hName : '\n' ∉ s.name :=
      not_mem_of_isIdentifier hWritable.name (by decide)
    have hWord : '\n' ∉ "screen ".toList := by decide
    exact List.not_mem_append hWord hName
  · rcases List.mem_flatMap.mp hMem with ⟨k, _, hRow⟩
    rcases List.mem_cons.mp hRow with rfl | hRow
    · have hKey : '\n' ∉ k.word.toList :=
        not_mem_of_isIdentifier k.isIdentifier_word (by decide)
      have hValue := not_mem_value hWritable hLine k
      apply not_mem_indented
      apply List.not_mem_append hKey
      split <;> simp [hValue]
    · rcases List.mem_map.mp hRow with ⟨text, hText, rfl⟩
      exact not_mem_indented 2
        (not_mem_of_mem_nested hWritable hLine hText)

/- The rows of a screen are one block. -/
theorem isCut_block
    (number : Nat)
    (hWritable : s.IsWritable) :
    IsCut 0 (linesFrom number s.rows) [s.block number] := by
  have hName := isSolid_of_isIdentifier hWritable.name
  have hCut := isCut_keyBlocks (number + 1) hWritable s.order
  apply isCut_of_keyword .screen number hName
  intro line hLine
  rw [← hCut.lines] at hLine
  rcases List.mem_flatMap.mp hLine with ⟨c, hBlock, hIn⟩
  rcases List.mem_cons.mp hIn with rfl | hBody
  · obtain ⟨line, k, rfl⟩ := exists_of_mem_keyBlocks hBlock
    exact Nat.one_pos
  · exact Nat.lt_trans Nat.one_pos
      (hCut.bodies c hBlock line hBody)

end ScreenForm

end Blueprint

------------------------------------------------------------
-- Reading Screens Back
------------------------------------------------------------

namespace Blueprint

open Text

namespace ScreenForm

variable {s : ScreenForm}
variable {appName : List Char}

/-
  A written screen is read back from its document, whatever
  the order of its properties is: with its kind, its texts
  in their order, and each step and widget at its own line.
-/
theorem parse_document
    (file : String)
    (hName : IsQuotable appName)
    (hWritable : s.IsWritable)
    (hLine : s.IsOneLine) :
    Spec.parse file (documentText appName s.rows) =
      .ok {
        appName := String.ofList appName
        entities := []
        screens := [s.screen file 2]
        flows := []
        rules := []
        integrations := []
        events := [] } := by
  have hRows := not_mem_row hWritable hLine
  have hCut := isCut_block 2 hWritable
  have hRead : [s.block 2].map (Declaration.ofBlock file) =
      [Declaration.screen (s.screen file 2)].map .ok :=
    congrArg ([·]) (declares_block file 2 hWritable)
  exact parse_documentText file hName hRows hCut hRead

/- A screen with delimiters in its texts, and an own order. -/
def signupForm : ScreenForm where
  name := "Signup".toList
  kind := "wizard".toList
  entity := some "User".toList
  action := some "save → \"log\", [mail]".toList
  fields := ["a, b".toList, "c] (\\\"d\\\") → e".toList]
  filters := []
  actions := ["# go: now".toList]
  steps :=
    [⟨"Name → [first]".toList, ["first".toList, ", ".toList]⟩,
     ⟨[], []⟩]
  widgets :=
    [⟨"Open (today)".toList, "count".toList⟩,
     ⟨"Odd".toList, "gauge".toList⟩]
  order :=
    [.widgets, .fields, .steps, .kind, .actions, .entity,
     .action]

/- How the screen is written in a document. -/
example :
    documentText "Forum".toList signupForm.rows =
      "app \"Forum\"\nscreen Signup\n" ++
      "  widgets:\n" ++
      "    \"Open (today)\" (count)\n" ++
      "    \"Odd\" (gauge)\n" ++
      "  fields: [\"a, b\", \"c] (\\\"d\\\") → e\"]\n" ++
      "  steps:\n" ++
      "    \"Name → [first]\" → [\"first\", \", \"]\n" ++
      "    \"\" → []\n" ++
      "  kind: wizard\n" ++
      "  actions: [\"# go: now\"]\n" ++
      "  entity: User\n" ++
      "  action: save → \"log\", [mail]" := by
  decide +kernel

/- The screen that is meant. -/
def signupScreen : Screen where
  name := "Signup"
  kind := .wizard
  entity := some "User"
  fields := ["a, b", "c] (\\\"d\\\") → e"]
  filters := []
  actions := ["# go: now"]
  primaryAction := some "save → \"log\", [mail]"
  steps :=
    [⟨"Name → [first]", ["first", ", "], ⟨"forum", 8⟩⟩,
     ⟨"", [], ⟨"forum", 9⟩⟩]
  widgets :=
    [⟨"Open (today)", .count, ⟨"forum", 4⟩⟩,
     ⟨"Odd", .unrecognized "gauge", ⟨"forum", 5⟩⟩]
  location := ⟨"forum", 2⟩

/- The texts of the screen can be written. -/
theorem isWritable_signupForm : signupForm.IsWritable where
  name := by decide
  kind := by decide
  entity := by decide
  action := by decide
  fields := by decide
  filters := by decide
  actions := by decide
  steps := by
    rintro step (_ | ⟨_, _ | ⟨_, hNone⟩⟩)
    · exact ⟨by decide, by decide⟩
    · exact ⟨by decide, by decide⟩
    · cases hNone
  widgets := by
    rintro w (_ | ⟨_, _ | ⟨_, hNone⟩⟩)
    · exact ⟨by decide, by decide⟩
    · exact ⟨by decide, by decide⟩
    · cases hNone
  once := by decide
  needed := by
    intro k hNeeded
    cases k with
    | filters => exact absurd rfl hNeeded
    | _ => decide

/- The screen is read back with the lines of its parts. -/
theorem parse_document_signupForm :
    Spec.parse "forum"
        (documentText "Forum".toList signupForm.rows) =
      .ok ⟨"Forum", [], [signupScreen], [], [], [], []⟩ := by
  have hName : IsQuotable "Forum".toList :=
    ⟨by decide, by decide⟩
  have hLine : signupForm.IsOneLine := by
    have hTexts : ∀ text ∈ signupForm.quotedTexts,
        '\n' ∉ text := by
      decide
    exact hTexts
  exact parse_document "forum" hName isWritable_signupForm
    hLine

/- A screen with an item that runs over a line. -/
def brokenForm : ScreenForm where
  name := "S".toList
  kind := "list".toList
  entity := none
  action := none
  fields := ["a\nb".toList]
  filters := []
  actions := []
  steps := []
  widgets := []
  order := [.kind, .fields]

/-
  Without the condition on lines, an item is cut at its line
  feed, and the rest is taken for a declaration.
-/
theorem parse_document_brokenForm :
    brokenForm.IsWritable ∧
      documentText "T".toList brokenForm.rows =
        "app \"T\"\nscreen S\n  kind: list\n" ++
        "  fields: [\"a\nb\"]" ∧
      Spec.parse "t" (documentText "T".toList brokenForm.rows) =
        .error
          [⟨⟨"t", 4⟩, .notAList "[\"a"⟩,
           ⟨⟨"t", 5⟩, .unknownKeyword "b\"]"⟩] ∧
      Spec.parse "t" (documentText "T".toList brokenForm.rows) ≠
        .ok ⟨"T", [], [brokenForm.screen "t" 2],
          [], [], [], []⟩ := by
  have hWritable : brokenForm.IsWritable := by
    refine ⟨by decide, by decide, nofun, nofun, by decide,
      nofun, nofun, nofun, nofun, by decide, ?_⟩
    intro k hNeeded
    cases k with
    | kind | fields => decide
    | _ => exact absurd rfl hNeeded
  have hParse : Spec.parse "t"
      (documentText "T".toList brokenForm.rows) =
        .error
          [⟨⟨"t", 4⟩, .notAList "[\"a"⟩,
           ⟨⟨"t", 5⟩, .unknownKeyword "b\"]"⟩] := by
    rfl
  refine ⟨hWritable, by decide +kernel, hParse, ?_⟩
  rw [hParse]
  intro hSame
  cases hSame

end ScreenForm

end Blueprint
