import Blueprint.Proofs.Source.Blame
import Blueprint.Spec

/-
  A block is read into one declaration that stands at its
  head, or else one of its lines is blamed.

  Main definitions:
    * `Line.opens`
    * `Declaration.keyword`, `Declaration.location`

  Main statements:
    * `Declaration.blamesAmong_ofBlock`
    * `Declaration.gives_ofBlock`
-/

------------------------------------------------------------
-- Flat Blocks
------------------------------------------------------------

namespace Blueprint

namespace Block

/- The head is a line of its block. -/
theorem head_mem_lines (b : Block) : b.head ∈ b.lines :=
  List.mem_cons_self

/- The lines of the body are lines of their block. -/
theorem body_subset_lines (b : Block) : b.body ⊆ b.lines := by
  intro line hLine
  exact List.mem_cons_of_mem _ hLine

end Block

variable {α β : Type}
variable {file : String}

/-
  A named head over a body of lines that are read one by
  one is read from the lines of its block.
-/
theorem blamesAmong_flatBlock
    (keyword : Keyword)
    (rest : List Char)
    (b : Block)
    {read : Line → Except Fault α}
    (hRead : ∀ line, BlamesAmong file [line] (read line))
    (build : String → List α → β) :
    BlamesAmong file b.lines (do
      let name ← b.head.blame file (readName keyword rest)
      checkEven file keyword b.body
      let items ← b.body.mapM read
      return build name items) := by
  apply (blamesAmong_blame b.head_mem_lines _).bind
  intro name
  apply (blamesAmong_checkEven _ b.body_subset_lines).bind
  intro _
  apply BlamesAmong.bind
  · apply blamesAmong_mapM
    intro line hLine
    apply (hRead line).mono
    intro other hOther
    rw [List.mem_singleton.mp hOther]
    exact b.body_subset_lines hLine
  · intro items
    exact blamesAmong_ok _

/- What such a block gives is built from its head. -/
theorem gives_flatBlock
    (keyword : Keyword)
    (rest : List Char)
    (b : Block)
    (read : Line → Except Fault α)
    {build : String → List α → β}
    {p : β → Prop}
    (hBuild : ∀ name items, p (build name items)) :
    Gives p (do
      let name ← b.head.blame file (readName keyword rest)
      checkEven file keyword b.body
      let items ← b.body.mapM read
      return build name items) := by
  apply gives_bind
  intro name
  apply gives_bind
  intro _
  apply gives_bind
  intro items
  exact gives_ok (hBuild name items)

/- A line that is blamed at most is a line of its own. -/
theorem blamesAmong_singleton
    (line : Line)
    (result : Except Cause α) :
    BlamesAmong file [line] (line.blame file result) :=
  blamesAmong_blame List.mem_cons_self result

/- An entity is read from the lines of its block. -/
theorem Entity.blamesAmong_ofBlock
    (rest : List Char)
    (b : Block) :
    BlamesAmong file b.lines (Entity.ofBlock file rest b) := by
  unfold Entity.ofBlock
  apply blamesAmong_flatBlock .entity rest b
  intro line
  exact blamesAmong_singleton line _

/- An entity stands at the head of its block. -/
theorem Entity.gives_ofBlock
    (rest : List Char)
    (b : Block) :
    Gives (fun e => e.location = b.head.location file)
      (Entity.ofBlock file rest b) := by
  unfold Entity.ofBlock
  refine gives_flatBlock .entity rest b
    (Field.ofLine file) ?_
  intro name fields
  rfl

/- A flow is read from the lines of its block. -/
theorem Flow.blamesAmong_ofBlock
    (rest : List Char)
    (b : Block) :
    BlamesAmong file b.lines (Flow.ofBlock file rest b) := by
  unfold Flow.ofBlock
  apply blamesAmong_flatBlock .flow rest b
  intro line
  exact blamesAmong_singleton line _

/- A flow stands at the head of its block. -/
theorem Flow.gives_ofBlock
    (rest : List Char)
    (b : Block) :
    Gives (fun f => f.location = b.head.location file)
      (Flow.ofBlock file rest b) := by
  unfold Flow.ofBlock
  refine gives_flatBlock .flow rest b
    (FlowStep.ofLine file) ?_
  intro name steps
  rfl

/- The properties of an integration do not move it. -/
theorem Integration.location_foldl_set
    (i : Integration)
    (properties : List IntegrationProperty) :
    (properties.foldl Integration.set i).location =
      i.location := by
  induction properties generalizing i with
  | nil => rfl
  | cons property properties ih =>
      rw [List.foldl_cons, ih]
      cases property <;> rfl

/- An integration is read from the lines of its block. -/
theorem Integration.blamesAmong_ofBlock
    (rest : List Char)
    (b : Block) :
    BlamesAmong file b.lines
      (Integration.ofBlock file rest b) := by
  unfold Integration.ofBlock
  apply blamesAmong_flatBlock .integration rest b
  intro line
  exact blamesAmong_singleton line _

/- An integration stands at the head of its block. -/
theorem Integration.gives_ofBlock
    (rest : List Char)
    (b : Block) :
    Gives (fun i => i.location = b.head.location file)
      (Integration.ofBlock file rest b) := by
  unfold Integration.ofBlock
  refine gives_flatBlock .integration rest b
    (IntegrationProperty.ofLine file) ?_
  intro name properties
  exact Integration.location_foldl_set _ properties

/- An event is read from the lines of its block. -/
theorem Event.blamesAmong_ofBlock
    (rest : List Char)
    (b : Block) :
    BlamesAmong file b.lines (Event.ofBlock file rest b) := by
  unfold Event.ofBlock
  apply blamesAmong_flatBlock .event rest b
  intro line
  exact blamesAmong_singleton line _

/- An event stands at the head of its block. -/
theorem Event.gives_ofBlock
    (rest : List Char)
    (b : Block) :
    Gives (fun e => e.location = b.head.location file)
      (Event.ofBlock file rest b) := by
  unfold Event.ofBlock
  refine gives_flatBlock .event rest b
    (Event.fieldsOfLine file) ?_
  intro name fields
  rfl

end Blueprint

------------------------------------------------------------
-- Rules
------------------------------------------------------------

namespace Blueprint

variable {file : String}

/- A rule is read from the lines of its block. -/
theorem Rule.blamesAmong_ofBlock
    (rest : List Char)
    (b : Block) :
    BlamesAmong file b.lines (Rule.ofBlock file rest b) := by
  have hParts :
      BlamesAmong file b.body (Rule.partsOfBody file b.body) := by
    cases b.body with
    | nil => exact blamesAmong_ok _
    | cons first more =>
        cases more with
        | nil => exact blamesAmong_singleton first _
        | cons second more =>
            have hSecond : second ∈ first :: second :: more :=
              List.mem_cons_of_mem _ List.mem_cons_self
            exact blamesAmong_blame hSecond
              (.error .secondRuleLine)
  unfold Rule.ofBlock
  apply (hParts.mono b.body_subset_lines).bind
  rintro ⟨condition, action⟩
  exact blamesAmong_ok _

/- A rule stands at the head of its block. -/
theorem Rule.gives_ofBlock
    (rest : List Char)
    (b : Block) :
    Gives (fun r => r.location = b.head.location file)
      (Rule.ofBlock file rest b) := by
  unfold Rule.ofBlock
  apply gives_bind
  rintro ⟨condition, action⟩
  exact gives_ok rfl

end Blueprint

------------------------------------------------------------
-- Screens
------------------------------------------------------------

namespace Blueprint

variable {file : String}

/- A property is read from its own line and the nested ones. -/
theorem ScreenProperty.blamesAmong_ofParts
    (key : String)
    (value : List Char)
    (b : Block) :
    BlamesAmong file b.lines
      (ScreenProperty.ofParts file key value b) := by
  have hHead : ∀ {α : Type} (result : Except Cause α),
      BlamesAmong file b.lines (b.head.blame file result) :=
    fun result => blamesAmong_blame b.head_mem_lines result
  unfold ScreenProperty.ofParts
  dsimp only
  split
  case h_1 | h_2 | h_3 => exact blamesAmong_ok _
  case h_4 | h_5 | h_6 => exact hHead _
  case h_7 | h_8 =>
      apply (hHead _).bind
      intro _
      apply BlamesAmong.bind
      · apply blamesAmong_mapM
        intro line hLine
        exact blamesAmong_blame (b.body_subset_lines hLine) _
      · intro nested
        exact blamesAmong_ok _
  case h_9 => exact hHead _

/- Whatever is wrong with a property lies at its lines. -/
theorem ScreenProperty.blamesAmong_ofBlock
    (screen : String)
    (level : Nat)
    (b : Block) :
    BlamesAmong file b.lines
      (ScreenProperty.ofBlock file screen level b) := by
  unfold ScreenProperty.ofBlock
  dsimp only
  split
  · exact blamesAmong_blame b.head_mem_lines _
  · split
    · exact blamesAmong_blame b.head_mem_lines _
    · split
      · exact blamesAmong_ofParts _ _ b
      · rename_i nested more hBody
        split
        · exact blamesAmong_ofParts _ _ b
        · apply blamesAmong_blame
          apply b.body_subset_lines
          rw [hBody]
          exact List.mem_cons_self

/- A screen is read from the lines of its block. -/
theorem Screen.blamesAmong_ofBlock
    (rest : List Char)
    (b : Block) :
    BlamesAmong file b.lines (Screen.ofBlock file rest b) := by
  unfold Screen.ofBlock
  apply (blamesAmong_blame b.head_mem_lines _).bind
  intro name
  apply BlamesAmong.bind
  · apply blamesAmong_mapM
    intro inner hInner
    have hLines : inner.lines ⊆ b.body := by
      intro line hLine
      rw [← flatMap_lines_blocks
        (Screen.bodyLevel b.body) b.body]
      exact List.mem_flatMap.mpr ⟨inner, hInner, hLine⟩
    apply (ScreenProperty.blamesAmong_ofBlock _ _ inner).mono
    exact List.Subset.trans hLines b.body_subset_lines
  · intro properties
    dsimp only
    split
    · exact blamesAmong_ok _
    · exact blamesAmong_blame b.head_mem_lines _

/- A screen stands at the head of its block. -/
theorem Screen.gives_ofBlock
    (rest : List Char)
    (b : Block) :
    Gives (fun s => s.location = b.head.location file)
      (Screen.ofBlock file rest b) := by
  unfold Screen.ofBlock
  apply gives_bind
  intro name
  apply gives_bind
  intro properties
  dsimp only
  split
  · rename_i screen hScreen
    rcases Option.map_eq_some_iff.mp hScreen with
      ⟨kind, _, rfl⟩
    exact gives_ok rfl
  · exact gives_blame_error _ _ _ _

end Blueprint

------------------------------------------------------------
-- Declarations
------------------------------------------------------------

namespace Blueprint

variable {file : String}

namespace Line

/- The keyword that a line starts with, if any. -/
def keyword? (line : Line) : Option Keyword :=
  Keyword.ofWord?
    (String.ofList (splitKeyword line.text).1)

/- A line that is not indented starts with the keyword. -/
def opens
    (keyword : Keyword)
    (line : Line) : Bool :=
  line.indent == 0 && line.keyword? == some keyword

end Line

namespace Declaration

/- The keyword of the kind of a declaration. -/
def keyword : Declaration → Keyword
| .entity _ => .entity
| .screen _ => .screen
| .flow _ => .flow
| .rule _ => .rule
| .integration _ => .integration
| .event _ => .event

/- The place of a declaration. -/
def location : Declaration → Location
| .entity e => e.location
| .screen s => s.location
| .flow f => f.location
| .rule r => r.location
| .integration i => i.location
| .event e => e.location

/- A block is read as its head says. -/
theorem ofBlock_of_opens
    {b : Block}
    {k : Keyword}
    (hOpens : b.head.opens k = true) :
    ofBlock file b =
      ofKeyword file (splitKeyword b.head.text).2 b k := by
  rw [Line.opens, Bool.and_eq_true, beq_iff_eq,
    beq_iff_eq, Line.keyword?] at hOpens
  obtain ⟨hIndent, hKeyword⟩ := hOpens
  unfold ofBlock
  dsimp only
  rw [if_neg (by omega), hKeyword]

/- A declaration is read from the lines of its block. -/
theorem blamesAmong_ofKeyword
    (rest : List Char)
    (b : Block)
    (k : Keyword) :
    BlamesAmong file b.lines (ofKeyword file rest b k) := by
  cases k with
  | entity =>
      exact (Entity.blamesAmong_ofBlock rest b).map _
  | screen =>
      exact (Screen.blamesAmong_ofBlock rest b).map _
  | flow => exact (Flow.blamesAmong_ofBlock rest b).map _
  | rule => exact (Rule.blamesAmong_ofBlock rest b).map _
  | integration =>
      exact
        (Integration.blamesAmong_ofBlock rest b).map _
  | event =>
      exact (Event.blamesAmong_ofBlock rest b).map _

/-
  A declaration has the kind of its keyword and stands at
  the head of its block.
-/
theorem gives_ofKeyword
    (rest : List Char)
    (b : Block)
    (k : Keyword) :
    Gives
      (fun d => d.keyword = k ∧
        d.location = b.head.location file)
      (ofKeyword file rest b k) := by
  cases k with
  | entity =>
      refine (Entity.gives_ofBlock rest b).map ?_
      intro e hPlace
      exact ⟨rfl, hPlace⟩
  | screen =>
      refine (Screen.gives_ofBlock rest b).map ?_
      intro s hPlace
      exact ⟨rfl, hPlace⟩
  | flow =>
      refine (Flow.gives_ofBlock rest b).map ?_
      intro f hPlace
      exact ⟨rfl, hPlace⟩
  | rule =>
      refine (Rule.gives_ofBlock rest b).map ?_
      intro r hPlace
      exact ⟨rfl, hPlace⟩
  | integration =>
      refine (Integration.gives_ofBlock rest b).map ?_
      intro i hPlace
      exact ⟨rfl, hPlace⟩
  | event =>
      refine (Event.gives_ofBlock rest b).map ?_
      intro e hPlace
      exact ⟨rfl, hPlace⟩

/- Whatever is wrong with a block lies at its lines. -/
theorem blamesAmong_ofBlock
    (b : Block) :
    BlamesAmong file b.lines (ofBlock file b) := by
  unfold ofBlock
  dsimp only
  split
  · exact blamesAmong_blame b.head_mem_lines _
  · split
    · exact blamesAmong_ofKeyword _ b _
    · split
      · exact blamesAmong_blame b.head_mem_lines _
      · exact blamesAmong_blame b.head_mem_lines _

/-
  The head of a block that is read opens a declaration of
  the kind that the block gives, at its own place.
-/
theorem gives_ofBlock
    (b : Block) :
    Gives
      (fun d => d.location = b.head.location file ∧
        ∀ k, b.head.opens k = (d.keyword == k))
      (ofBlock file b) := by
  unfold ofBlock
  dsimp only
  split
  · exact gives_blame_error _ _ _ _
  · rename_i hIndent
    split
    · rename_i keyword hKeyword
      intro d hOk
      rcases gives_ofKeyword _ b keyword d hOk with
        ⟨rfl, hPlace⟩
      refine ⟨hPlace, ?_⟩
      intro k
      have hZero : b.head.indent = 0 := by omega
      have hWord : b.head.keyword? = some d.keyword :=
        hKeyword
      rw [Line.opens, hZero, hWord]
      rfl
    · split
      · exact gives_blame_error _ _ _ _
      · exact gives_blame_error _ _ _ _

end Declaration

end Blueprint
