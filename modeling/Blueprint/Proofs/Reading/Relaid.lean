import Blueprint.Proofs.Source.Relaid
import Blueprint.Spec

/-
  Reading depends on a layout only through what it tells the
  places of things by: a document laid out anew is read to
  the same specification or the same faults, with every
  place moved to its new line.

  Main definitions:
    * `Declaration.moved`, `Spec.moved`
    * `movedOutcome`

  Main statements:
    * `Declaration.ofBlock_relaid`
    * `Spec.ofLines_relaid`
-/

------------------------------------------------------------
-- Moved Declarations
------------------------------------------------------------

namespace Blueprint

variable (number : Nat → Nat)

/- A field at its new place. -/
def Field.moved (f : Field) : Field :=
  { f with location := f.location.moved number }

/- An entity with its fields at their new places. -/
def Entity.moved (e : Entity) : Entity :=
  { e with
    fields := e.fields.map (Field.moved number)
    location := e.location.moved number }

/- A step of a wizard at its new place. -/
def WizardStep.moved (step : WizardStep) : WizardStep :=
  { step with location := step.location.moved number }

/- A widget at its new place. -/
def Widget.moved (widget : Widget) : Widget :=
  { widget with location := widget.location.moved number }

/- A screen with what is on it at their new places. -/
def Screen.moved (s : Screen) : Screen :=
  { s with
    steps := s.steps.map (WizardStep.moved number)
    widgets := s.widgets.map (Widget.moved number)
    location := s.location.moved number }

/- A step of a flow at its new place. -/
def FlowStep.moved (step : FlowStep) : FlowStep :=
  { step with location := step.location.moved number }

/- A flow with its steps at their new places. -/
def Flow.moved (f : Flow) : Flow :=
  { f with
    steps := f.steps.map (FlowStep.moved number)
    location := f.location.moved number }

/- A rule at its new place. -/
def Rule.moved (r : Rule) : Rule :=
  { r with location := r.location.moved number }

/- An integration at its new place. -/
def Integration.moved (i : Integration) : Integration :=
  { i with location := i.location.moved number }

/- An event at its new place. -/
def Event.moved (e : Event) : Event :=
  { e with location := e.location.moved number }

/- A declaration with everything in it at its new place. -/
def Declaration.moved : Declaration → Declaration
| .entity e => .entity (e.moved number)
| .screen s => .screen (s.moved number)
| .flow f => .flow (f.moved number)
| .rule r => .rule (r.moved number)
| .integration i => .integration (i.moved number)
| .event e => .event (e.moved number)

/- A specification with everything at its new place. -/
def Spec.moved (spec : Spec) : Spec where
  appName := spec.appName
  entities := spec.entities.map (Entity.moved number)
  screens := spec.screens.map (Screen.moved number)
  flows := spec.flows.map (Flow.moved number)
  rules := spec.rules.map (Rule.moved number)
  integrations :=
    spec.integrations.map (Integration.moved number)
  events := spec.events.map (Event.moved number)

end Blueprint

------------------------------------------------------------
-- Flat Blocks
------------------------------------------------------------

namespace Blueprint

variable {α β : Type}
variable {file : String}
variable (layout : Layout)

/-
  A named head over a body of lines that are read one by
  one is read alike in both layouts.
-/
theorem flatBlock_relaid
    (keyword : Keyword)
    (rest : List Char)
    (b : Block)
    {read : Line → Except Fault α}
    {moveA : α → α}
    (hRead : ∀ line,
      read (line.relaid layout) =
        movedReading layout.number moveA (read line))
    {build relaidBuild : String → List α → β}
    {moveB : β → β}
    (hBuild : ∀ name items,
      relaidBuild name (items.map moveA) =
        moveB (build name items)) :
    (do
      let name ← (b.relaid layout).head.blame file
        (readName keyword rest)
      checkEven file keyword (b.relaid layout).body
      let items ← (b.relaid layout).body.mapM read
      return relaidBuild name items) =
      movedReading layout.number moveB (do
        let name ← b.head.blame file (readName keyword rest)
        checkEven file keyword b.body
        let items ← b.body.mapM read
        return build name items) := by
  apply bind_eq_movedReading
  · exact blame_relaid_id layout b.head _
  intro name
  apply bind_eq_movedReading
  · exact checkEven_relaid layout keyword b.body
  intro _
  apply bind_eq_movedReading
  · exact mapM_eq_movedReading hRead b.body
  intro items
  exact congrArg Except.ok (hBuild name items)

end Blueprint

------------------------------------------------------------
-- Entities
------------------------------------------------------------

namespace Blueprint

open Text

variable {file : String}
variable (layout : Layout)

/- What follows a name is read alike wherever it stands. -/
theorem Field.ofSpecification_moved
    (number : Nat → Nat)
    (place : Location)
    (name text : List Char) :
    ofSpecification (place.moved number) name text =
      (ofSpecification place name text).map
        (Field.moved number) := by
  unfold ofSpecification
  dsimp only
  cases cutTopLevel ',' text with
  | none =>
      dsimp only
      cases Modifiers.ofText (String.ofList name) [] <;> rfl
  | some parts =>
      dsimp only
      cases Modifiers.ofText (String.ofList name)
        (trim parts.2) <;> rfl

/- A field is read alike wherever it stands. -/
theorem Field.ofText_moved
    (number : Nat → Nat)
    (place : Location)
    (text : List Char) :
    ofText (place.moved number) text =
      (ofText place text).map (Field.moved number) := by
  unfold ofText
  split
  · rfl
  · dsimp only
    split
    · rfl
    · split
      · rfl
      · exact Field.ofSpecification_moved number place _ _

/- A field follows its line. -/
theorem Field.ofLine_relaid
    (line : Line) :
    ofLine file (line.relaid layout) =
      movedReading layout.number (Field.moved layout.number)
        (ofLine file line) := by
  unfold ofLine
  rw [location_relaid, Field.ofText_moved]
  exact blame_relaid layout line _ _

/- An entity follows the lines of its block. -/
theorem Entity.ofBlock_relaid
    (rest : List Char)
    (b : Block) :
    ofBlock file rest (b.relaid layout) =
      movedReading layout.number
        (Entity.moved layout.number)
        (ofBlock file rest b) := by
  unfold ofBlock
  apply flatBlock_relaid layout .entity rest b
  · exact Field.ofLine_relaid layout
  · intro name fields
    rfl

end Blueprint

------------------------------------------------------------
-- Flows, Integrations and Events
------------------------------------------------------------

namespace Blueprint

variable {file : String}
variable (layout : Layout)

/- A step of a flow is read alike wherever it stands. -/
theorem FlowStep.ofText_moved
    (number : Nat → Nat)
    (place : Location)
    (text : List Char) :
    ofText (place.moved number) text =
      (ofText place text).map (FlowStep.moved number) := by
  unfold ofText
  split
  · rfl
  · split <;> rfl

/- A step of a flow follows its line. -/
theorem FlowStep.ofLine_relaid
    (line : Line) :
    ofLine file (line.relaid layout) =
      movedReading layout.number
        (FlowStep.moved layout.number)
        (ofLine file line) := by
  unfold ofLine
  rw [location_relaid, FlowStep.ofText_moved]
  exact blame_relaid layout line _ _

/- A flow follows the lines of its block. -/
theorem Flow.ofBlock_relaid
    (rest : List Char)
    (b : Block) :
    ofBlock file rest (b.relaid layout) =
      movedReading layout.number (Flow.moved layout.number)
        (ofBlock file rest b) := by
  unfold ofBlock
  apply flatBlock_relaid layout .flow rest b
  · exact FlowStep.ofLine_relaid layout
  · intro name steps
    rfl

/- A property changes an integration wherever it stands. -/
theorem Integration.set_moved
    (number : Nat → Nat)
    (i : Integration)
    (property : IntegrationProperty) :
    (i.moved number).set property =
      (i.set property).moved number := by
  cases property <;> rfl

/- Properties change an integration wherever it stands. -/
theorem Integration.foldl_set_moved
    (number : Nat → Nat)
    (i : Integration)
    (properties : List IntegrationProperty) :
    properties.foldl set (i.moved number) =
      (properties.foldl set i).moved number := by
  induction properties generalizing i with
  | nil => rfl
  | cons property properties ih =>
      rw [List.foldl_cons, Integration.set_moved, ih,
        List.foldl_cons]

/- An integration follows the lines of its block. -/
theorem Integration.ofBlock_relaid
    (rest : List Char)
    (b : Block) :
    ofBlock file rest (b.relaid layout) =
      movedReading layout.number
        (Integration.moved layout.number)
        (ofBlock file rest b) := by
  have hRead : ∀ line : Line,
      IntegrationProperty.ofLine file (line.relaid layout) =
        movedReading layout.number id
          (IntegrationProperty.ofLine file line) := by
    intro line
    exact blame_relaid_id layout line _
  unfold ofBlock
  apply flatBlock_relaid layout .integration rest b hRead
  intro name properties
  rw [List.map_id]
  exact Integration.foldl_set_moved layout.number
    ⟨name, none, none, b.head.location file⟩ properties

/- An event follows the lines of its block. -/
theorem Event.ofBlock_relaid
    (rest : List Char)
    (b : Block) :
    ofBlock file rest (b.relaid layout) =
      movedReading layout.number (Event.moved layout.number)
        (ofBlock file rest b) := by
  have hRead : ∀ line : Line,
      fieldsOfLine file (line.relaid layout) =
        movedReading layout.number id
          (fieldsOfLine file line) := by
    intro line
    exact blame_relaid_id layout line _
  unfold ofBlock
  apply flatBlock_relaid layout .event rest b hRead
  intro name fields
  rw [List.map_id]
  rfl

end Blueprint

------------------------------------------------------------
-- Rules
------------------------------------------------------------

namespace Blueprint

variable {file : String}
variable (layout : Layout)

/- The condition and the action follow their lines. -/
theorem Rule.partsOfBody_relaid
    (body : List Line) :
    partsOfBody file (body.map (Line.relaid layout)) =
      movedReading layout.number id
        (partsOfBody file body) := by
  cases body with
  | nil => rfl
  | cons first more =>
      cases more with
      | nil => exact blame_relaid_id layout first _
      | cons second more => rfl

/- A rule follows the lines of its block. -/
theorem Rule.ofBlock_relaid
    (rest : List Char)
    (b : Block) :
    ofBlock file rest (b.relaid layout) =
      movedReading layout.number (Rule.moved layout.number)
        (ofBlock file rest b) := by
  unfold ofBlock
  apply bind_eq_movedReading
  · exact Rule.partsOfBody_relaid layout b.body
  · rintro ⟨condition, action⟩
    rfl

end Blueprint

------------------------------------------------------------
-- Screens
------------------------------------------------------------

namespace Blueprint

variable {file : String}
variable (layout : Layout)
variable (number : Nat → Nat)

/- A property with what it holds at their new places. -/
def ScreenProperty.moved :
    ScreenProperty → ScreenProperty
| .steps nested =>
    .steps (nested.map (WizardStep.moved number))
| .widgets nested =>
    .widgets (nested.map (Widget.moved number))
| other => other

/- Parts of a screen at their new places. -/
def ScreenParts.moved (parts : ScreenParts) : ScreenParts :=
  { parts with
    steps := parts.steps.map (WizardStep.moved number)
    widgets := parts.widgets.map (Widget.moved number) }

/- A property is added to the parts wherever they stand. -/
theorem ScreenParts.set_moved
    (parts : ScreenParts)
    (property : ScreenProperty) :
    (parts.moved number).set (property.moved number) =
      (parts.set property).moved number := by
  cases property <;> rfl

/- Properties are added to the parts wherever they stand. -/
theorem ScreenParts.foldl_set_moved
    (parts : ScreenParts)
    (properties : List ScreenProperty) :
    (properties.map (ScreenProperty.moved number)).foldl
        set (parts.moved number) =
      (properties.foldl set parts).moved number := by
  induction properties generalizing parts with
  | nil => rfl
  | cons property properties ih =>
      rw [List.map_cons, List.foldl_cons,
        ScreenParts.set_moved, ih, List.foldl_cons]

/- The parts of a screen at another place make it there. -/
theorem ScreenParts.toScreen?_moved
    (parts : ScreenParts)
    (name : String)
    (place : Location) :
    (parts.moved number).toScreen? name
        (place.moved number) =
      (parts.toScreen? name place).map
        (Screen.moved number) := by
  unfold toScreen?
  rw [Option.map_map]
  rfl

/- A step of a wizard follows its line. -/
theorem WizardStep.ofLine_relaid
    (line : Line) :
    ofLine file (line.relaid layout) =
      movedReading layout.number
        (WizardStep.moved layout.number)
        (ofLine file line) := by
  unfold ofLine
  rw [← blame_relaid]
  congr 1
  have hText : (line.relaid layout).text = line.text := rfl
  rw [hText]
  cases parts? line.text with
  | none => rfl
  | some found =>
      rcases found with ⟨name, list⟩
      dsimp only
      cases readList list <;> rfl

/- A widget follows its line. -/
theorem Widget.ofLine_relaid
    (line : Line) :
    ofLine file (line.relaid layout) =
      movedReading layout.number
        (Widget.moved layout.number)
        (ofLine file line) := by
  unfold ofLine
  rw [← blame_relaid]
  congr 1
  have hText : (line.relaid layout).text = line.text := rfl
  rw [hText]
  cases parts? line.text <;> rfl

/- A list property has no place of its own. -/
theorem ScreenProperty.readList_relaid
    (line : Line)
    (value : List Char)
    {build : List String → ScreenProperty}
    (hBuild : ∀ names,
      (build names).moved layout.number = build names) :
    (line.relaid layout).blame file
        ((readList value).map build) =
      movedReading layout.number
        (ScreenProperty.moved layout.number)
        (line.blame file ((readList value).map build)) := by
  cases readList value with
  | error cause => rfl
  | ok names => exact congrArg Except.ok (hBuild names).symm

/- A property of a screen follows the lines of its block. -/
theorem ScreenProperty.ofParts_relaid
    (key : String)
    (value : List Char)
    (b : Block) :
    ofParts file key value (b.relaid layout) =
      movedReading layout.number
        (ScreenProperty.moved layout.number)
        (ofParts file key value b) := by
  unfold ofParts
  dsimp only
  split
  case h_1 | h_2 | h_3 | h_9 => rfl
  case h_4 | h_5 | h_6 =>
      apply ScreenProperty.readList_relaid layout b.head value
      intro names
      rfl
  case h_7 =>
      apply bind_eq_movedReading
      · exact blame_relaid_id layout b.head _
      intro _
      apply bind_eq_movedReading
      · exact mapM_eq_movedReading
          (WizardStep.ofLine_relaid layout) b.body
      intro steps
      rfl
  case h_8 =>
      apply bind_eq_movedReading
      · exact blame_relaid_id layout b.head _
      intro _
      apply bind_eq_movedReading
      · exact mapM_eq_movedReading
          (Widget.ofLine_relaid layout) b.body
      intro widgets
      rfl

/- A block of a screen's body follows its lines. -/
theorem ScreenProperty.ofBlock_relaid
    (screen : String)
    (level : Nat)
    (b : Block) :
    ofBlock file screen (layout.indent level)
        (b.relaid layout) =
      movedReading layout.number
        (ScreenProperty.moved layout.number)
        (ofBlock file screen level b) := by
  have hUneven :
      ((b.relaid layout).head.indent !=
          layout.indent level) =
        (b.head.indent != level) := by
    rw [Bool.eq_iff_iff, bne_iff_ne, bne_iff_ne]
    exact not_congr layout.indent_inj
  have hText : (b.relaid layout).head.text = b.head.text :=
    rfl
  unfold ofBlock
  dsimp only
  rw [hUneven, hText]
  split
  · rfl
  · split
    · rfl
    · rename_i keyText value _
      cases hBody : b.body with
      | nil =>
          have hRelaid : (b.relaid layout).body = [] := by
            rw [Block.relaid, hBody]
            rfl
          rw [hRelaid]
          exact ScreenProperty.ofParts_relaid layout _ _ b
      | cons nested more =>
          have hRelaid : (b.relaid layout).body =
              nested.relaid layout ::
                more.map (Line.relaid layout) := by
            rw [Block.relaid, hBody]
            rfl
          rw [hRelaid]
          dsimp only
          split
          · exact ScreenProperty.ofParts_relaid layout _ _ b
          · rfl

/- The property lines of a screen are as deep as before. -/
theorem Screen.bodyLevel_relaid
    (body : List Line) :
    bodyLevel (body.map (Line.relaid layout)) =
      layout.indent (bodyLevel body) := by
  cases body with
  | nil => exact layout.indent_zero.symm
  | cons first body => rfl

/- A screen follows the lines of its block. -/
theorem Screen.ofBlock_relaid
    (rest : List Char)
    (b : Block) :
    ofBlock file rest (b.relaid layout) =
      movedReading layout.number
        (Screen.moved layout.number)
        (ofBlock file rest b) := by
  have hBody : (b.relaid layout).body =
      b.body.map (Line.relaid layout) :=
    rfl
  have hPlace : (b.relaid layout).head.location file =
      (b.head.location file).moved layout.number :=
    rfl
  unfold ofBlock
  dsimp only
  rw [hBody, hPlace, Screen.bodyLevel_relaid,
    blocks_map_relaid]
  apply bind_eq_movedReading
  · exact blame_relaid_id layout b.head _
  intro name
  apply bind_eq_movedReading
  · exact mapM_eq_movedReading
      (ScreenProperty.ofBlock_relaid layout name _) _
  intro properties
  have hParts := ScreenParts.foldl_set_moved layout.number
    {} properties
  have hEmpty : ScreenParts.moved layout.number {} = {} :=
    rfl
  rw [hEmpty] at hParts
  dsimp only [id]
  rw [hParts, ScreenParts.toScreen?_moved]
  cases ScreenParts.toScreen? _ name
      (b.head.location file) with
  | none => rfl
  | some screen => rfl

end Blueprint

------------------------------------------------------------
-- Declarations
------------------------------------------------------------

namespace Blueprint

variable {file : String}
variable (layout : Layout)

namespace Declaration

/- A declaration of any kind follows its block. -/
theorem ofKeyword_relaid
    (rest : List Char)
    (b : Block)
    (k : Keyword) :
    ofKeyword file rest (b.relaid layout) k =
      movedReading layout.number
        (Declaration.moved layout.number)
        (ofKeyword file rest b k) := by
  cases k with
  | entity =>
      apply map_eq_movedReading
        (Entity.ofBlock_relaid layout rest b)
      intro e
      rfl
  | screen =>
      apply map_eq_movedReading
        (Screen.ofBlock_relaid layout rest b)
      intro s
      rfl
  | flow =>
      apply map_eq_movedReading
        (Flow.ofBlock_relaid layout rest b)
      intro f
      rfl
  | rule =>
      apply map_eq_movedReading
        (Rule.ofBlock_relaid layout rest b)
      intro r
      rfl
  | integration =>
      apply map_eq_movedReading
        (Integration.ofBlock_relaid layout rest b)
      intro i
      rfl
  | event =>
      apply map_eq_movedReading
        (Event.ofBlock_relaid layout rest b)
      intro e
      rfl

/- What a block gives follows the lines of the block. -/
theorem ofBlock_relaid
    (b : Block) :
    ofBlock file (b.relaid layout) =
      movedReading layout.number
        (Declaration.moved layout.number)
        (ofBlock file b) := by
  have hStray :
      0 < (b.relaid layout).head.indent ↔
        0 < b.head.indent :=
    layout.indent_pos_iff
  have hText : (b.relaid layout).head.text = b.head.text :=
    rfl
  unfold ofBlock
  dsimp only
  simp only [hStray, hText]
  split
  · rfl
  · split
    · exact ofKeyword_relaid layout _ b _
    · split <;> rfl

end Declaration

end Blueprint

------------------------------------------------------------
-- Documents
------------------------------------------------------------

namespace Blueprint

variable {α : Type}

/-
  The outcome of reading a document with everything at its
  new place.
-/
def movedOutcome
    (number : Nat → Nat)
    (move : α → α) :
    Except (List Fault) α → Except (List Fault) α
| .ok a => .ok (move a)
| .error faults => .error (faults.map (Fault.moved number))

/- Moved results are collected to a moved outcome. -/
theorem collect_map_movedReading
    (number : Nat → Nat)
    (move : α → α)
    (results : List (Except Fault α)) :
    collect (results.map (movedReading number move)) =
      movedOutcome number (List.map move)
        (collect results) := by
  induction results with
  | nil => rfl
  | cons result results ih =>
      cases result <;>
        simp only [List.map_cons, movedReading, collect, ih]
        <;> cases collect results <;> rfl

namespace Spec

variable {file : String}
variable (layout : Layout)

/- Moved declarations make up a moved specification. -/
theorem ofDeclarations_map_moved
    (number : Nat → Nat)
    (appName : String)
    (declarations : List Declaration) :
    ofDeclarations appName
        (declarations.map (Declaration.moved number)) =
      (ofDeclarations appName declarations).moved
        number := by
  unfold ofDeclarations
  induction declarations with
  | nil => rfl
  | cons d declarations ih =>
      rw [List.map_cons, List.foldr_cons, ih,
        List.foldr_cons]
      cases d <;> rfl

/- The header follows its line. -/
theorem readHeader_relaid
    (first : Line)
    (lines : List Line) :
    readHeader file
        ((first :: lines).map (Line.relaid layout)) =
      movedReading layout.number
        (fun (name, rest) =>
          (name, rest.map (Line.relaid layout)))
        (readHeader file (first :: lines)) := by
  have hIndent :
      (first.relaid layout).indent = 0 ↔
        first.indent = 0 := by
    have hInj := layout.indent_inj (a := first.indent) (b := 0)
    rwa [layout.indent_zero] at hInj
  have hText : (first.relaid layout).text = first.text := rfl
  rw [List.map_cons, readHeader, readHeader]
  simp only [hIndent, hText]
  split
  · rfl
  · split <;> rfl

/-
  A document laid out anew is read alike, with everything at
  its new place. An empty document is blamed at its first
  line, which must stay the first one.
-/
theorem ofLines_relaid
    (lines : List Line)
    (hFirst : lines = [] → layout.number 1 = 1) :
    ofLines file (lines.map (Line.relaid layout)) =
      movedOutcome layout.number (Spec.moved layout.number)
        (ofLines file lines) := by
  cases lines with
  | nil =>
      simp only [ofLines, List.map_nil, readHeader,
        movedOutcome, List.map_cons, Fault.moved,
        Location.moved, hFirst rfl]
  | cons first lines =>
      unfold ofLines
      rw [readHeader_relaid]
      cases readHeader file (first :: lines) with
      | error fault => rfl
      | ok found =>
          rcases found with ⟨appName, rest⟩
          have hBlocks := blocks_map_relaid layout 0 rest
          have hResults :
              ((blocks 0 rest).map
                  (Block.relaid layout)).map
                  (Declaration.ofBlock file) =
                ((blocks 0 rest).map
                  (Declaration.ofBlock file)).map
                  (movedReading layout.number
                    (Declaration.moved layout.number)) := by
            rw [List.map_map, List.map_map]
            apply List.map_congr_left
            intro b _
            exact Declaration.ofBlock_relaid layout b
          rw [layout.indent_zero] at hBlocks
          dsimp only [movedReading]
          rw [hBlocks, hResults, collect_map_movedReading]
          cases collect ((blocks 0 rest).map
              (Declaration.ofBlock file)) with
          | error faults => rfl
          | ok declarations =>
              exact congrArg Except.ok
                (ofDeclarations_map_moved layout.number
                  appName declarations)

end Spec

end Blueprint
