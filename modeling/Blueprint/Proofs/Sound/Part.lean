import Blueprint.Proofs.Places.Lines
import Blueprint.Proofs.Source.Rows
import Blueprint.Proofs.Text.Excerpt

/-
  The phrases of a line are parts of its text, and what a
  document holds is made of parts of its lines. No line
  holds a line feed, and no item that is read from one is
  empty.

  Main definition:
    * `IsPartOf`

  Main statements:
    * `subset_of_property?`, `subset_of_readList`,
      `subset_of_readName`
    * `empty_not_mem_of_readList`, `nonempty?_ne_some_empty`
    * `isPartOf_of_forall₂`
    * `not_mem_text_of_mem_documentBlocks`
-/

------------------------------------------------------------
-- Phrases
------------------------------------------------------------

namespace Blueprint

open Text

variable {text : List Char}

theorem subset_of_enclosed?
    {opening closing inner : List Char}
    (h : enclosed? opening closing text = some inner) :
    inner ⊆ text := by
  rcases Option.bind_eq_some_iff.mp h with
    ⟨rest, hStart, hEnd⟩
  exact List.Subset.trans (subset_of_stripEnd hEnd)
    (subset_of_stripStart hStart)

theorem splitKeyword_subset (text : List Char) :
    (splitKeyword text).2 ⊆ text := by
  unfold splitKeyword
  split
  · rename_i hCut
    exact List.Subset.trans (trim_subset _)
      (subset_of_cutAt hCut).2
  · exact List.nil_subset text

theorem subset_of_property?
    {key value : List Char}
    (h : property? text = some (key, value)) :
    value ⊆ text := by
  unfold property? at h
  split at h
  · cases h
  · rename_i hCut
    split at h
    · cases h
      exact List.Subset.trans (trim_subset _)
        (subset_of_cutAt hCut).2
    · cases h

theorem subset_of_nonempty?
    {s : String}
    (h : nonempty? text = some s) :
    s.toList ⊆ text := by
  unfold nonempty? at h
  split at h
  · cases h
  · cases h
    rw [String.toList_ofList]
    exact List.Subset.refl text

theorem subset_of_mem_listItems
    {item : String}
    (h : item ∈ listItems text) :
    item.toList ⊆ text := by
  rcases List.mem_map.mp h with ⟨characters, hMem, rfl⟩
  rcases List.mem_map.mp (List.mem_filter.mp hMem).1 with
    ⟨piece, hPiece, rfl⟩
  rw [String.toList_ofList]
  exact List.Subset.trans (unquoted_subset piece)
    (subset_of_mem_topLevelItems hPiece)

theorem subset_of_readList
    {items : List String}
    (h : readList text = .ok items) :
    ∀ item ∈ items, item.toList ⊆ text := by
  unfold readList at h
  split at h
  · rename_i hInner
    cases h
    intro item hMem
    exact List.Subset.trans (subset_of_mem_listItems hMem)
      (subset_of_enclosed? hInner)
  · cases h

theorem subset_of_readName
    {k : Keyword}
    {name : String}
    (h : readName k text = .ok name) :
    name.toList ⊆ text := by
  unfold readName at h
  split at h
  · cases h
  · split at h
    · rename_i hInner
      cases h
      rw [String.toList_ofList]
      exact subset_of_unquote? hInner
    · split at h
      · cases h
        rw [String.toList_ofList]
        exact List.Subset.refl text
      · cases h

/- The name of an app is a part of the header. -/
theorem subset_of_headerName?
    {text name : List Char}
    (h : headerName? text = some name) :
    name ⊆ text := by
  rcases Option.bind_eq_some_iff.mp h with ⟨afterApp, hApp, h⟩
  rcases Option.bind_eq_some_iff.mp h with
    ⟨afterBlanks, hBlanks, h⟩
  rcases Option.bind_eq_some_iff.mp h with
    ⟨⟨body, after⟩, hName, h⟩
  dsimp only at h
  split at h
  · cases h
    exact List.Subset.trans (subset_of_quoted? hName).1
      (List.Subset.trans (subset_of_skipBlanks? hBlanks)
        (subset_of_stripStart hApp))
  · cases h

end Blueprint

------------------------------------------------------------
-- Items and Optional Texts
------------------------------------------------------------

namespace Blueprint

open Text

/- The items of a list are not empty. -/
theorem empty_not_mem_listItems (text : List Char) :
    "" ∉ listItems text := by
  intro hMem
  rcases List.mem_map.mp hMem with ⟨item, hItem, hEmpty⟩
  have hSome := (List.mem_filter.mp hItem).2
  rw [String.ofList_eq_empty_iff.mp hEmpty] at hSome
  cases hSome

theorem empty_not_mem_of_readList
    {text : List Char}
    {items : List String}
    (h : readList text = .ok items) :
    "" ∉ items := by
  unfold readList at h
  split at h
  · cases h
    exact empty_not_mem_listItems _
  · cases h

/- What a reading leaves out is not an empty text. -/
theorem nonempty?_ne_some_empty (text : List Char) :
    nonempty? text ≠ some "" := by
  unfold nonempty?
  split
  · exact nofun
  · rename_i hSome
    intro hEmpty
    rw [Option.some_inj, String.ofList_eq_empty_iff] at hEmpty
    exact hSome (by rw [hEmpty]; rfl)

end Blueprint

------------------------------------------------------------
-- Parts of Lines
------------------------------------------------------------

namespace Blueprint

open Text

variable {source : String}
variable {rest : List Char}
variable {b : Block}

/- The text is a part of one of the lines. -/
def IsPartOf (lines : List Line) (s : String) : Prop :=
  ∃ line ∈ lines, s.toList ⊆ line.text

/- A name is a part of the head. -/
theorem isPartOf_of_readName
    {k : Keyword}
    {name : String}
    (hRest : rest ⊆ b.head.text)
    (h : readName k rest = .ok name) :
    IsPartOf b.lines name :=
  ⟨b.head, b.head_mem_lines,
    List.Subset.trans (subset_of_readName h) hRest⟩

/- Items read line by line hold parts of the lines. -/
theorem isPartOf_of_forall₂
    {α : Type}
    {read : Line → Except Fault α}
    {strings : α → List String}
    {items : List α}
    (hAll : List.Forall₂ (fun line a => read line = .ok a)
      b.body items)
    (hEach : ∀ line a, read line = .ok a →
      ∀ s ∈ strings a, s.toList ⊆ line.text) :
    ∀ s ∈ items.flatMap strings, IsPartOf b.lines s := by
  intro s hMem
  rcases List.mem_flatMap.mp hMem with ⟨a, hItem, hString⟩
  rcases exists_source_of_forall₂ hAll a hItem with
    ⟨line, hLine, hRead⟩
  exact ⟨line, b.body_subset_lines hLine,
    hEach line a hRead s hString⟩

/- The text of a line is its row without outer blanks. -/
theorem text_of_ofRow?
    {number : Nat}
    {row : List Char}
    {line : Line}
    (h : Line.ofRow? number row = some line) :
    line.text = trim row := by
  unfold Line.ofRow? at h
  split at h
  · cases h
  · cases h
  · cases h
    rfl

/- The lines of rows without line feeds have none either. -/
theorem not_mem_text_of_mem_linesFrom
    {number : Nat}
    {rows : List (List Char)}
    (hRows : ∀ row ∈ rows, '\n' ∉ row) :
    ∀ line ∈ linesFrom number rows, '\n' ∉ line.text := by
  induction rows generalizing number with
  | nil => exact List.forall_mem_nil _
  | cons row rows ih =>
      rw [List.forall_mem_cons] at hRows
      unfold linesFrom
      split
      · exact ih hRows.2
      · rename_i first hFirst
        rw [List.forall_mem_cons, text_of_ofRow? hFirst]
        exact ⟨fun hMem => hRows.1 (trim_subset row hMem),
          ih hRows.2⟩

/- No line of a document holds a line feed. -/
theorem not_mem_text_of_mem_significantLines
    {line : Line}
    (h : line ∈ significantLines source) :
    '\n' ∉ line.text :=
  not_mem_text_of_mem_linesFrom
    (fun _ => not_mem_of_mem_rows) line h

theorem not_mem_text_of_mem_documentBlocks
    (hBlock : b ∈ documentBlocks source)
    {line : Line}
    (hLine : line ∈ b.lines) :
    '\n' ∉ line.text := by
  have hBelow : line ∈ (significantLines source).tail := by
    rw [← flatMap_lines_blocks 0 (significantLines source).tail]
    exact List.mem_flatMap.mpr ⟨b, hBlock, hLine⟩
  exact not_mem_text_of_mem_significantLines
    (List.mem_of_mem_tail hBelow)

end Blueprint
