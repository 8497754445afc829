import Blueprint.Proofs.Reading.Declarations
import Blueprint.Proofs.Source.Blocks

/-
  A document is read block by block. No block changes what
  another one gives, and nothing is lost or doubled: either
  all blocks give a declaration, or the faults of all faulty
  blocks are told in order.

  Main definitions:
    * `Yields`
    * `Spec.ofKind`
    * `Blockwise`
    * `documentBlocks`

  Main statements:
    * `collect_eq`
    * `yields_ofBlock`
    * `Spec.mem_ofKind_of_ofBlock`
    * `Spec.forall₂_ofKind`
    * `Spec.exists_faults_of_ofBlock`
    * `Spec.ofKind_line_pairwise`
    * `blockwise_parse`
-/

------------------------------------------------------------
-- Collecting Results
------------------------------------------------------------

namespace Blueprint

variable {α : Type}

/- The fault of a result, if it is one. -/
def fault? : Except Fault α → Option Fault
| .ok _ => none
| .error fault => some fault

/- What the successful ones of some results give. -/
def valuesOf (results : List (Except Fault α)) : List α :=
  results.filterMap Except.toOption

/- The faults among some results. -/
def faultsOf (results : List (Except Fault α)) : List Fault :=
  results.filterMap fault?

/- Results are collected without loss and in order. -/
theorem collect_eq (results : List (Except Fault α)) :
    collect results =
      if faultsOf results = [] then
        .ok (valuesOf results)
      else
        .error (faultsOf results) := by
  induction results with
  | nil => rfl
  | cons result results ih =>
      unfold collect
      rw [ih]
      by_cases hFaults : faultsOf results = []
      · rw [if_pos hFaults]
        cases result with
        | ok a =>
            have hSame : faultsOf (.ok a :: results) = [] :=
              hFaults
            rw [if_pos hSame]
            rfl
        | error fault =>
            have hOne : faultsOf (.error fault :: results) =
                [fault] :=
              congrArg (fault :: ·) hFaults
            rw [hOne, if_neg (List.cons_ne_nil _ _)]
      · rw [if_neg hFaults]
        cases result with
        | ok a =>
            have hSame : faultsOf (.ok a :: results) =
                faultsOf results := rfl
            rw [hSame, if_neg hFaults]
        | error fault =>
            have hMore : faultsOf (.error fault :: results) =
                fault :: faultsOf results := rfl
            rw [hMore, if_neg (List.cons_ne_nil _ _)]

/- There is no fault exactly when every result is a success. -/
theorem faultsOf_eq_nil_iff
    {results : List (Except Fault α)} :
    faultsOf results = [] ↔
      ∀ result ∈ results, ∃ a, result = .ok a := by
  unfold faultsOf
  rw [List.filterMap_eq_nil_iff]
  apply forall₂_congr
  intro result _
  cases result with
  | ok a => simp [fault?]
  | error fault => simp [fault?]

/- Without faults, every source gives one of the values. -/
theorem forall₂_valuesOf
    {σ : Type}
    {read : σ → Except Fault α}
    {sources : List σ}
    (hNone : faultsOf (sources.map read) = []) :
    List.Forall₂ (fun source a => read source = .ok a)
      sources (valuesOf (sources.map read)) := by
  induction sources with
  | nil => exact .nil
  | cons source sources ih =>
      cases hRead : read source with
      | error fault =>
          rw [List.map_cons, hRead] at hNone
          cases hNone
      | ok a =>
          rw [List.map_cons, hRead] at hNone ⊢
          exact .cons hRead (ih hNone)

end Blueprint

------------------------------------------------------------
-- Sources and Items
------------------------------------------------------------

namespace Blueprint

variable {α β : Type}
variable {R : α → β → Prop}
variable {sources : List α}
variable {items : List β}

/- What all sources hand on holds of all that they give. -/
theorem forall_mem_of_forall₂
    {p : α → Prop}
    {q : β → Prop}
    (hAll : List.Forall₂ R sources items)
    (hEach : ∀ a b, R a b → p a → q b)
    (hSources : ∀ a ∈ sources, p a) :
    ∀ b ∈ items, q b := by
  induction hAll with
  | nil => exact List.forall_mem_nil _
  | cons hFirst _ ih =>
      rw [List.forall_mem_cons] at hSources ⊢
      exact ⟨hEach _ _ hFirst hSources.1, ih hSources.2⟩

/- Every item is given by one of the sources. -/
theorem exists_source_of_forall₂
    (hAll : List.Forall₂ R sources items) :
    ∀ b ∈ items, ∃ a ∈ sources, R a b :=
  forall_mem_of_forall₂ hAll
    (fun a _ hHere hMem => ⟨a, hMem, hHere⟩)
    (fun _ hMem => hMem)

/- Every source gives one of the items. -/
theorem exists_item_of_forall₂
    (hAll : List.Forall₂ R sources items) :
    ∀ a ∈ sources, ∃ b ∈ items, R a b :=
  exists_source_of_forall₂ hAll.flip

/- What the items have in common, the sources have as well. -/
theorem forall_mem_iff_of_forall₂
    {p : α → Prop}
    {q : β → Prop}
    (hAll : List.Forall₂ R sources items)
    (hEach : ∀ a b, R a b → (p a ↔ q b)) :
    (∀ a ∈ sources, p a) ↔ ∀ b ∈ items, q b :=
  ⟨forall_mem_of_forall₂ hAll fun a b h => (hEach a b h).mp,
    forall_mem_of_forall₂ hAll.flip fun b a h =>
      (hEach a b h).mpr⟩

/- What holds between sources holds between their items. -/
theorem pairwise_of_forall₂
    {P : α → α → Prop}
    {Q : β → β → Prop}
    (hAll : List.Forall₂ R sources items)
    (hEach : ∀ a b a' b',
      R a b → R a' b' → P a a' → Q b b')
    (hSources : sources.Pairwise P) :
    items.Pairwise Q := by
  induction hAll with
  | nil => exact .nil
  | cons hFirst hRest ih =>
      rw [List.pairwise_cons] at hSources ⊢
      refine ⟨forall_mem_of_forall₂ hRest ?_ hSources.1,
        ih hSources.2⟩
      intro a b hHere hPair
      exact hEach _ _ a b hFirst hHere hPair

end Blueprint

------------------------------------------------------------
-- Declarations by Kind
------------------------------------------------------------

namespace Blueprint

namespace Spec

/- The declarations of a kind, in their order. -/
def ofKind
    (spec : Spec) : Keyword → List Declaration
| .entity => spec.entities.map .entity
| .screen => spec.screens.map .screen
| .flow => spec.flows.map .flow
| .rule => spec.rules.map .rule
| .integration => spec.integrations.map .integration
| .event => spec.events.map .event

/- The name of the app is not a matter of declarations. -/
theorem appName_ofDeclarations
    (appName : String)
    (declarations : List Declaration) :
    (ofDeclarations appName declarations).appName =
      appName := by
  unfold ofDeclarations
  induction declarations with
  | nil => rfl
  | cons d declarations ih =>
      rw [List.foldr_cons]
      cases d <;> exact ih

/- Declarations are sorted by kind and keep their order. -/
theorem ofKind_ofDeclarations
    (appName : String)
    (declarations : List Declaration)
    (k : Keyword) :
    (ofDeclarations appName declarations).ofKind k =
      declarations.filter (·.keyword == k) := by
  unfold ofDeclarations
  induction declarations with
  | nil => cases k <;> rfl
  | cons d declarations ih =>
      rw [List.foldr_cons]
      by_cases hKind : d.keyword = k
      · rw [List.filter_cons_of_pos (by simpa using hKind),
          ← ih]
        subst hKind
        cases d <;> rfl
      · rw [List.filter_cons_of_neg (by simpa using hKind),
          ← ih]
        cases d <;> cases k <;>
          first | rfl | exact absurd rfl hKind

end Spec

end Blueprint

------------------------------------------------------------
-- One Block
------------------------------------------------------------

namespace Blueprint

variable {file : String}
variable {header : Line}
variable {name : List Char}

/- A header is read, and the lines after it are the rest. -/
theorem readHeader_cons
    (hName : headerName? header.text = some name)
    (hIndent : header.indent = 0)
    (lines : List Line) :
    readHeader file (header :: lines) =
      .ok (String.ofList name, lines) := by
  unfold readHeader
  simp only [hName, hIndent, if_true]

/- Under a header, the blocks are read one by one. -/
theorem ofLines_cons
    (hName : headerName? header.text = some name)
    (hIndent : header.indent = 0)
    (lines : List Line) :
    Spec.ofLines file (header :: lines) =
      (collect ((blocks 0 lines).map
        (Declaration.ofBlock file))).map
          (Spec.ofDeclarations (String.ofList name)) := by
  unfold Spec.ofLines
  rw [readHeader_cons hName hIndent]

/-
  A block that stands alone under a header gives a result:
  one declaration at the head of the block, or one fault at
  a line of the block.
-/
inductive Yields
    (file : String)
    (header : Line)
    (appName : String)
    (b : Block) : Except Fault Declaration → Prop
| declaration
    {d : Declaration}
    (alone :
      Spec.ofLines file (header :: b.lines) =
        .ok (Spec.ofDeclarations appName [d]))
    (place : d.location = b.head.location file) :
    Yields file header appName b (.ok d)
| fault
    {fault : Fault}
    (alone :
      Spec.ofLines file (header :: b.lines) =
        .error [fault])
    (place :
      ∃ line ∈ b.lines,
        fault.location = line.location file) :
    Yields file header appName b (.error fault)

/- Every block gives alone what it gives among the others. -/
theorem yields_ofBlock
    (hName : headerName? header.text = some name)
    (hIndent : header.indent = 0)
    {lines : List Line}
    {b : Block}
    (hBlock : b ∈ blocks 0 lines) :
    Yields file header (String.ofList name) b
      (Declaration.ofBlock file b) := by
  have hAlone : Spec.ofLines file (header :: b.lines) = _ :=
    ofLines_cons hName hIndent b.lines
  rw [blocks_lines hBlock] at hAlone
  cases hResult : Declaration.ofBlock file b with
  | ok d =>
      rw [List.map_singleton, hResult] at hAlone
      have hPlace :=
        (Declaration.gives_ofBlock b d hResult).1
      exact .declaration hAlone hPlace
  | error fault =>
      rw [List.map_singleton, hResult] at hAlone
      have hPlace :=
        Declaration.blamesAmong_ofBlock b fault hResult
      exact .fault hAlone hPlace

end Blueprint

------------------------------------------------------------
-- All Blocks
------------------------------------------------------------

namespace Blueprint

variable {file : String}

/- The faults of blocks lie at lines of the blocks. -/
theorem exists_line_of_mem_faultsOf
    {bs : List Block}
    {fault : Fault}
    (hFault :
      fault ∈ faultsOf (bs.map (Declaration.ofBlock file))) :
    ∃ line ∈ bs.flatMap Block.lines,
      fault.location = line.location file := by
  rcases List.mem_filterMap.mp hFault with
    ⟨result, hMem, hSome⟩
  rcases List.mem_map.mp hMem with ⟨b, hBlock, rfl⟩
  cases hResult : Declaration.ofBlock file b with
  | ok d =>
      rw [hResult] at hSome
      cases hSome
  | error first =>
      rw [hResult] at hSome
      cases hSome
      rcases Declaration.blamesAmong_ofBlock b fault hResult
        with ⟨line, hLine, hPlace⟩
      exact ⟨line,
        List.mem_flatMap.mpr ⟨b, hBlock, hLine⟩, hPlace⟩

/- The faults of blocks stand in the order of the lines. -/
theorem faultsOf_line_pairwise
    {bs : List Block}
    (hOrder : (bs.flatMap Block.lines).Pairwise
      (fun a b => a.number < b.number)) :
    (faultsOf (bs.map (Declaration.ofBlock file))).Pairwise
      (fun a b => a.location.line < b.location.line) := by
  induction bs with
  | nil => exact List.Pairwise.nil
  | cons b bs ih =>
      rw [List.flatMap_cons, List.pairwise_append] at hOrder
      rcases hOrder with ⟨_, hRest, hAcross⟩
      rw [List.map_cons, faultsOf]
      cases hResult : Declaration.ofBlock file b with
      | ok d => exact ih hRest
      | error fault =>
          refine List.pairwise_cons.mpr ⟨?_, ih hRest⟩
          intro later hLater
          rcases Declaration.blamesAmong_ofBlock b fault
            hResult with ⟨line, hLine, hPlace⟩
          rcases exists_line_of_mem_faultsOf hLater with
            ⟨other, hOther, hLaterPlace⟩
          rw [hPlace, hLaterPlace]
          exact hAcross line hLine other hOther

/- What successful results give, they give. -/
theorem mem_valuesOf_iff
    {α : Type}
    {results : List (Except Fault α)}
    {a : α} :
    a ∈ valuesOf results ↔ .ok a ∈ results := by
  unfold valuesOf
  rw [List.mem_filterMap]
  constructor
  · rintro ⟨result, hMem, hSome⟩
    cases result with
    | error fault => cases hSome
    | ok b =>
        cases hSome
        exact hMem
  · intro hMem
    exact ⟨.ok a, hMem, rfl⟩

/- Declarations of blocks stand in the order of the lines. -/
theorem valuesOf_line_pairwise
    {bs : List Block}
    (hOrder : (bs.flatMap Block.lines).Pairwise
      (fun a b => a.number < b.number)) :
    (valuesOf (bs.map (Declaration.ofBlock file))).Pairwise
      (fun a b => a.location.line < b.location.line) := by
  induction bs with
  | nil => exact List.Pairwise.nil
  | cons b bs ih =>
      rw [List.flatMap_cons, List.pairwise_append] at hOrder
      rcases hOrder with ⟨_, hRest, hAcross⟩
      rw [List.map_cons, valuesOf]
      cases hResult : Declaration.ofBlock file b with
      | error fault => exact ih hRest
      | ok d =>
          refine List.pairwise_cons.mpr ⟨?_, ih hRest⟩
          intro later hLater
          rcases List.mem_map.mp (mem_valuesOf_iff.mp hLater)
            with ⟨c, hBlock, hRead⟩
          have hHead : c.head ∈ bs.flatMap Block.lines :=
            List.mem_flatMap.mpr
              ⟨c, hBlock, c.head_mem_lines⟩
          rw [(Declaration.gives_ofBlock b d hResult).1,
            (Declaration.gives_ofBlock c later hRead).1]
          exact hAcross b.head b.head_mem_lines c.head hHead

/-
  When all blocks are read, the declarations of a kind are
  as many as the lines that open one.
-/
theorem countP_opens
    {bs : List Block}
    (hBodies :
      ∀ b ∈ bs, ∀ line ∈ b.body, 0 < line.indent)
    (hOk :
      ∀ b ∈ bs, ∃ d, Declaration.ofBlock file b = .ok d)
    (k : Keyword) :
    (bs.flatMap Block.lines).countP (Line.opens k) =
      ((valuesOf (bs.map (Declaration.ofBlock file))).filter
        (·.keyword == k)).length := by
  induction bs with
  | nil => rfl
  | cons b bs ih =>
      rcases hOk b List.mem_cons_self with ⟨d, hResult⟩
      have hBody : b.body.countP (Line.opens k) = 0 := by
        rw [List.countP_eq_zero]
        intro line hLine hOpens
        have hDeep :=
          hBodies b List.mem_cons_self line hLine
        simp only [Line.opens, Bool.and_eq_true,
          beq_iff_eq] at hOpens
        omega
      have hHead : b.head.opens k = (d.keyword == k) :=
        (Declaration.gives_ofBlock b d hResult).2 k
      have hRest := ih
        (fun c hMem =>
          hBodies c (List.mem_cons_of_mem _ hMem))
        (fun c hMem => hOk c (List.mem_cons_of_mem _ hMem))
      have hValues :
          valuesOf ((b :: bs).map
            (Declaration.ofBlock file)) =
              d :: valuesOf (bs.map
                (Declaration.ofBlock file)) := by
        rw [List.map_cons, hResult]
        rfl
      rw [List.flatMap_cons, List.countP_append, hRest,
        hValues, Block.lines, List.countP_cons, hBody, hHead,
        List.filter_cons]
      cases d.keyword == k with
      | true => simp [Nat.add_comm]
      | false => simp

end Blueprint

------------------------------------------------------------
-- Documents
------------------------------------------------------------

namespace Blueprint

/-
  How a document is read below its header: the lines have
  one cut into blocks, every block gives a result of its
  own, and the results of all blocks, no more and no less,
  make up the result of the document.
-/
structure Blockwise
    (file : String)
    (header : Line)
    (appName : String)
    (lines : List Line)
    (result : Except (List Fault) Spec)
    (bs : List Block)
    (results : List (Except Fault Declaration)) : Prop where
  cut : ∀ other, IsCut 0 lines other ↔ other = bs
  once :
    ∀ line ∈ lines,
      bs.countP (fun b => decide (line ∈ b.lines)) = 1
  alone :
    List.Forall₂ (Yields file header appName) bs results
  ok_iff :
    (∃ spec, result = .ok spec) ↔
      ∀ r ∈ results, ∃ d, r = .ok d
  declared :
    ∀ spec, result = .ok spec →
      spec.appName = appName ∧
        ∀ k, spec.ofKind k =
          (valuesOf results).filter (·.keyword == k)
  counted :
    ∀ spec, result = .ok spec →
      ∀ k, (spec.ofKind k).length =
        lines.countP (Line.opens k)
  faulty :
    ∀ faults, result = .error faults →
      faults ≠ [] ∧ faults = faultsOf results ∧
        faults.Pairwise
          (fun a b => a.location.line < b.location.line)

variable {file : String}
variable {header : Line}
variable {lines : List Line}
variable {name : List Char}

/- What the blocks of lines give, one by one. -/
def blockResults
    (file : String)
    (lines : List Line) :
    List (Except Fault Declaration) :=
  (blocks 0 lines).map (Declaration.ofBlock file)

/- Lines are read when all of their blocks are. -/
theorem ofLines_eq_ok_iff
    (hName : headerName? header.text = some name)
    (hIndent : header.indent = 0)
    {spec : Spec} :
    Spec.ofLines file (header :: lines) = .ok spec ↔
      faultsOf (blockResults file lines) = [] ∧
        spec = Spec.ofDeclarations (String.ofList name)
          (valuesOf (blockResults file lines)) := by
  rw [ofLines_cons hName hIndent, ← blockResults, collect_eq]
  by_cases hFaults : faultsOf (blockResults file lines) = []
  · simp [hFaults, Except.map, eq_comm]
  · simp [hFaults, Except.map]

/- What is read has a header, and blocks below the header. -/
theorem Spec.exists_of_parse_eq_ok
    {source : String}
    {spec : Spec}
    (h : Spec.parse file source = .ok spec) :
    ∃ header name lines,
      significantLines source = header :: lines ∧
        headerName? header.text = some name ∧
        faultsOf (blockResults file lines) = [] ∧
        spec = Spec.ofDeclarations (String.ofList name)
          (valuesOf (blockResults file lines)) := by
  unfold Spec.parse at h
  cases hLines : significantLines source with
  | nil =>
      rw [hLines] at h
      cases h
  | cons header lines =>
      rw [hLines] at h
      cases hName : headerName? header.text with
      | none =>
          simp [Spec.ofLines, readHeader, hName, Line.blame] at h
      | some name =>
          by_cases hIndent : header.indent = 0
          · have hRead :=
              (ofLines_eq_ok_iff hName hIndent).mp h
            exact ⟨header, name, lines, rfl, hName, hRead⟩
          · simp [Spec.ofLines, readHeader, hName, hIndent,
              Line.blame] at h

/- The blocks below the header of a document. -/
def documentBlocks (source : String) : List Block :=
  blocks 0 (significantLines source).tail

/- What a block gives is declared by the document. -/
theorem Spec.mem_ofKind_of_ofBlock
    {source : String}
    {spec : Spec}
    {b : Block}
    {d : Declaration}
    (h : Spec.parse file source = .ok spec)
    (hBlock : b ∈ documentBlocks source)
    (hRead : Declaration.ofBlock file b = .ok d) :
    d ∈ spec.ofKind d.keyword := by
  obtain ⟨header, name, lines, hLines, _, _, rfl⟩ :=
    exists_of_parse_eq_ok h
  rw [documentBlocks, hLines, List.tail_cons] at hBlock
  have hResult : .ok d ∈ blockResults file lines := by
    rw [← hRead]
    exact List.mem_map_of_mem hBlock
  rw [ofKind_ofDeclarations, List.mem_filter]
  exact ⟨mem_valuesOf_iff.mpr hResult, beq_self_eq_true _⟩

/-
  The declarations of a kind are read, one by one, from the
  blocks that open one.
-/
theorem Spec.forall₂_ofKind
    {source : String}
    {spec : Spec}
    (h : Spec.parse file source = .ok spec)
    (k : Keyword) :
    List.Forall₂
      (fun b d => Declaration.ofBlock file b = .ok d)
      ((documentBlocks source).filter (·.head.opens k))
      (spec.ofKind k) := by
  obtain ⟨header, name, lines, hLines, _, hNone, rfl⟩ :=
    exists_of_parse_eq_ok h
  rw [ofKind_ofDeclarations, documentBlocks, hLines,
    List.tail_cons]
  apply List.rel_filter _ (forall₂_valuesOf hNone)
  intro b d hRead
  have hKind := (Declaration.gives_ofBlock b d hRead).2 k
  exact iff_of_eq (congrArg (· = true) hKind)

/- Every block that opens a kind gives one declaration of it. -/
theorem Spec.exists_mem_ofKind
    {source : String}
    {spec : Spec}
    {b : Block}
    {k : Keyword}
    (h : Spec.parse file source = .ok spec)
    (hBlock : b ∈ documentBlocks source)
    (hOpens : b.head.opens k = true) :
    ∃ d ∈ spec.ofKind k, Declaration.ofBlock file b = .ok d :=
  exists_item_of_forall₂ (forall₂_ofKind h k) b
    (List.mem_filter.mpr ⟨hBlock, hOpens⟩)

/- Declarations of a kind stand in the order of their lines. -/
theorem Spec.ofKind_line_pairwise
    {source : String}
    {spec : Spec}
    (h : Spec.parse file source = .ok spec)
    (k : Keyword) :
    (spec.ofKind k).Pairwise
      (fun a b => a.location.line < b.location.line) := by
  obtain ⟨header, name, lines, hLines, _, _, rfl⟩ :=
    exists_of_parse_eq_ok h
  have hOrder := significantLines_number_pairwise source
  rw [hLines, List.pairwise_cons,
    ← flatMap_lines_blocks 0 lines] at hOrder
  rw [ofKind_ofDeclarations]
  exact (valuesOf_line_pairwise hOrder.2).filter _

/- Lines are not read when some block has a fault. -/
theorem ofLines_eq_error_iff
    (hName : headerName? header.text = some name)
    (hIndent : header.indent = 0)
    {faults : List Fault} :
    Spec.ofLines file (header :: lines) = .error faults ↔
      faults ≠ [] ∧
        faults = faultsOf (blockResults file lines) := by
  rw [ofLines_cons hName hIndent, ← blockResults, collect_eq]
  by_cases hFaults : faultsOf (blockResults file lines) = []
  · simp only [hFaults, if_true, Except.map, reduceCtorEq,
      false_iff, not_and, ne_eq]
    intro hSome
    exact hSome
  · simp only [hFaults, if_false, Except.map,
      Except.error.injEq]
    constructor
    · rintro rfl
      exact ⟨hFaults, rfl⟩
    · rintro ⟨_, hSame⟩
      exact hSame.symm

/-
  The fault of a block is a fault of the document, if only
  the document has a header.
-/
theorem Spec.exists_faults_of_ofBlock
    {source : String}
    {b : Block}
    {fault : Fault}
    (hBlock : b ∈ documentBlocks source)
    (hFault : Declaration.ofBlock file b = .error fault) :
    ∃ faults, Spec.parse file source = .error faults ∧
      ∀ found,
        readHeader file (significantLines source) = .ok found →
          fault ∈ faults := by
  unfold documentBlocks at hBlock
  unfold Spec.parse Spec.ofLines
  cases hLines : significantLines source with
  | nil =>
      rw [hLines] at hBlock
      cases hBlock
  | cons header lines =>
      rw [hLines, List.tail_cons] at hBlock
      cases hHeader : readHeader file (header :: lines) with
      | error cause => exact ⟨[cause], rfl, nofun⟩
      | ok found =>
          have hRest : found.2 = lines := by
            unfold readHeader at hHeader
            dsimp only at hHeader
            split at hHeader
            · cases hHeader
            · split at hHeader
              · cases hHeader
                rfl
              · cases hHeader
          have hMem :
              fault ∈ faultsOf (blockResults file lines) := by
            apply List.mem_filterMap.mpr
            refine ⟨.error fault, ?_, rfl⟩
            rw [← hFault]
            exact List.mem_map_of_mem hBlock
          refine ⟨faultsOf (blockResults file lines), ?_,
            fun _ _ => hMem⟩
          dsimp only
          rw [hRest, ← blockResults, collect_eq,
            if_neg (List.ne_nil_of_mem hMem)]
          rfl

/-
  A document whose first line is a header that is not
  indented is read block by block.
-/
theorem blockwise_parse
    {source : String}
    (hLines : significantLines source = header :: lines)
    (hName : headerName? header.text = some name)
    (hIndent : header.indent = 0) :
    ∃ bs results,
      Blockwise file header (String.ofList name) lines
        (Spec.parse file source) bs results := by
  have hOrder : lines.Pairwise
      (fun a b => a.number < b.number) := by
    have hAll := significantLines_number_pairwise source
    rw [hLines] at hAll
    exact (List.pairwise_cons.mp hAll).2
  have hNodup : lines.Nodup := by
    apply hOrder.imp
    rintro a b hLess rfl
    exact Nat.lt_irrefl _ hLess
  have hFlat := flatMap_lines_blocks 0 lines
  rw [Spec.parse, hLines]
  refine ⟨blocks 0 lines, blockResults file lines, ?_⟩
  constructor
  case cut =>
    intro other
    exact isCut_iff
  case once =>
    intro line hLine
    rw [← hFlat] at hNodup hLine
    exact countP_mem_lines hNodup hLine
  case alone =>
    rw [blockResults, List.forall₂_map_right_iff,
      List.forall₂_same]
    intro b hBlock
    exact yields_ofBlock hName hIndent hBlock
  case ok_iff =>
    rw [← faultsOf_eq_nil_iff]
    constructor
    · rintro ⟨spec, hSpec⟩
      exact ((ofLines_eq_ok_iff hName hIndent).mp hSpec).1
    · intro hNone
      exact ⟨_, (ofLines_eq_ok_iff hName hIndent).mpr
        ⟨hNone, rfl⟩⟩
  case declared =>
    intro spec hSpec
    rcases (ofLines_eq_ok_iff hName hIndent).mp hSpec with
      ⟨_, rfl⟩
    refine ⟨Spec.appName_ofDeclarations _ _, ?_⟩
    intro k
    exact Spec.ofKind_ofDeclarations _ _ k
  case counted =>
    intro spec hSpec k
    rcases (ofLines_eq_ok_iff hName hIndent).mp hSpec with
      ⟨hNone, rfl⟩
    have hOk : ∀ b ∈ blocks 0 lines,
        ∃ d, Declaration.ofBlock file b = .ok d := by
      intro b hBlock
      exact faultsOf_eq_nil_iff.mp hNone _
        (List.mem_map_of_mem hBlock)
    have hCount := countP_opens
      (isCut_blocks 0 lines).bodies hOk k
    rw [hFlat] at hCount
    rw [Spec.ofKind_ofDeclarations, hCount, blockResults]
  case faulty =>
    intro faults hFaults
    rcases (ofLines_eq_error_iff hName hIndent).mp hFaults
      with ⟨hSome, rfl⟩
    refine ⟨hSome, rfl, ?_⟩
    rw [← hFlat] at hOrder
    exact faultsOf_line_pairwise hOrder

/- A document with an entity and a line that is no keyword. -/
theorem blockwise_parse_shop :
    ∃ bs results,
      Blockwise "shop" ⟨"app \"Shop\"".toList, 0, 1⟩ "Shop"
        [⟨"entity Item".toList, 0, 2⟩,
          ⟨"name: text".toList, 1, 3⟩,
          ⟨"shelf".toList, 0, 4⟩]
        (Spec.parse "shop"
          "app \"Shop\"\nentity Item\n  name: text\nshelf\n")
        bs results :=
  blockwise_parse
    (show significantLines
        "app \"Shop\"\nentity Item\n  name: text\nshelf\n" =
          _ by decide)
    (show headerName? "app \"Shop\"".toList =
      some "Shop".toList by decide)
    rfl

end Blueprint
