import Blueprint.Proofs.Source.Relaid
import Blueprint.Proofs.Text.Blank
import Blueprint.Proofs.Text.Split
import Blueprint.Text.Words
import Mathlib.Data.List.Forall2

/-
  Rows and their lines: the line of an indented text, and
  what does not matter to the lines of a document, namely
  rows without a line and blanks at the end of rows.

  Main definitions:
    * `IsSkipped`
    * `indented`
    * `IsPadded`
    * `insertRow`, `numberAfterInsertion`
    * `crlf`, `padRows`

  Main statements:
    * `ofRow?_indented`
    * `linesFrom_map`, `mapM_linesFrom`
    * `significantLines_insertRow`
    * `significantLines_crlf`
    * `significantLines_padRows`
-/

------------------------------------------------------------
-- Rows without a Line
------------------------------------------------------------

namespace Blueprint

open Text

/- A row that has no line: it is blank or a comment. -/
inductive IsSkipped : List Char → Prop
| blank
    {row : List Char}
    (blanks : ∀ c ∈ row, isBlank c = true) :
    IsSkipped row
| comment
    {before : List Char}
    (comment : List Char)
    (blanks : ∀ c ∈ before, isBlank c = true) :
    IsSkipped (before ++ '#' :: comment)

/- Such a row gives no line, whatever its number. -/
theorem ofRow?_of_isSkipped
    (number : Nat)
    {row : List Char}
    (hRow : IsSkipped row) :
    Line.ofRow? number row = none := by
  unfold Line.ofRow?
  cases hRow with
  | blank hBlanks => rw [trim_eq_nil_iff.mpr hBlanks]
  | @comment before comment hBlanks =>
      have hMark : isBlank '#' = false := by decide
      have hTrim : trim (before ++ '#' :: comment) =
          '#' :: trimEnd comment := by
        have hEnd := trimEnd_append_cons [] comment hMark
        unfold trim
        rw [trimStart_append_of_blank hBlanks,
          trimStart_cons hMark]
        exact hEnd
      rw [hTrim]
      rfl

/- The lines of rows, part by part. -/
theorem linesFrom_append
    (number : Nat)
    (before after : List (List Char)) :
    linesFrom number (before ++ after) =
      linesFrom number before ++
        linesFrom (number + before.length) after := by
  induction before generalizing number with
  | nil => rfl
  | cons row before ih =>
      have hNext : number + (row :: before).length =
          number + 1 + before.length := by
        rw [List.length_cons]
        omega
      rw [List.cons_append, linesFrom, linesFrom, hNext, ih]
      cases Line.ofRow? number row <;> rfl

/- A row without a line leaves its number unused. -/
theorem linesFrom_cons_of_isSkipped
    (number : Nat)
    {row : List Char}
    (rows : List (List Char))
    (hRow : IsSkipped row) :
    linesFrom number (row :: rows) =
      linesFrom (number + 1) rows := by
  rw [linesFrom, ofRow?_of_isSkipped number hRow]

/- Rows that are numbered anew have lines with new numbers. -/
theorem linesFrom_renumbered
    {renumber : Nat → Nat}
    {old new : Nat}
    {rows : List (List Char)}
    (hRenumber :
      ∀ k < rows.length, renumber (old + k) = new + k) :
    linesFrom new rows =
      (linesFrom old rows).map
        (Line.relaid (.renumbering renumber)) := by
  induction rows generalizing old new with
  | nil => rfl
  | cons row rows ih =>
      have hFirst : renumber old = new :=
        hRenumber 0 (Nat.succ_pos _)
      have hRest :
          linesFrom (new + 1) rows =
            (linesFrom (old + 1) rows).map
              (Line.relaid (.renumbering renumber)) := by
        apply ih
        intro k hShort
        have hNext := hRenumber (k + 1)
          (Nat.succ_lt_succ hShort)
        rw [Nat.add_right_comm, Nat.add_assoc,
          Nat.add_right_comm, Nat.add_assoc]
        exact hNext
      have hRow :
          Line.ofRow? new row =
            (Line.ofRow? old row).map
              (Line.relaid (.renumbering renumber)) := by
        unfold Line.ofRow?
        rw [← hFirst]
        split <;> rfl
      rw [linesFrom, linesFrom, hRow, hRest]
      cases Line.ofRow? old row <;> rfl

end Blueprint

------------------------------------------------------------
-- Written Rows
------------------------------------------------------------

namespace Blueprint

open Text

/- A text with two spaces for every level of indent. -/
def indented
    (indent : Nat)
    (text : List Char) : List Char :=
  List.replicate (2 * indent) ' ' ++ text

/- A solid text that is no comment is the line of its row. -/
theorem ofRow?_indented
    (number indent : Nat)
    {text : List Char}
    (hSolid : IsSolid text)
    (hMark : text.head? ≠ some '#') :
    Line.ofRow? number (indented indent text) =
      some ⟨text, indent, number⟩ := by
  have hSpaces : ∀ c ∈ List.replicate (2 * indent) ' ',
      (c == ' ') = true := by
    intro c hMem
    rw [List.eq_of_mem_replicate hMem]
    rfl
  have hBlanks : ∀ c ∈ List.replicate (2 * indent) ' ',
      isBlank c = true := by
    intro c hMem
    rw [List.eq_of_mem_replicate hMem]
    rfl
  have hTrim : trim (indented indent text) = text := by
    have hSame :=
      hSolid.trim_append hBlanks (List.forall_mem_nil _)
    rwa [List.append_nil] at hSame
  have hLevel : indentLevel (indented indent text) =
      indent := by
    have hStop : text.takeWhile (· == ' ') = [] := by
      cases text with
      | nil => rfl
      | cons c rest =>
          apply List.takeWhile_cons_of_neg
          rw [beq_iff_eq]
          rintro rfl
          have hBlank := hSolid.first ' ' rfl
          cases hBlank
    rw [indentLevel, indented,
      List.takeWhile_append_of_pos hSpaces, hStop,
      List.append_nil, List.length_replicate]
    omega
  unfold Line.ofRow?
  rw [hTrim, hLevel]
  split
  · exact absurd rfl hSolid.ne_nil
  · exact absurd rfl hMark
  · rfl

/- The line of the first row is the first line. -/
theorem linesFrom_cons_of_ofRow?
    {number : Nat}
    {row : List Char}
    {line : Line}
    (rows : List (List Char))
    (hRow : Line.ofRow? number row = some line) :
    linesFrom number (row :: rows) =
      line :: linesFrom (number + 1) rows := by
  rw [linesFrom, hRow]

/- The indent in front of a text adds no line feed. -/
theorem not_mem_indented
    {text : List Char}
    (indent : Nat)
    (hText : '\n' ∉ text) :
    '\n' ∉ indented indent text := by
  have hSpaces : '\n' ∉ List.replicate (2 * indent) ' ' := by
    intro hMem
    cases List.eq_of_mem_replicate hMem
  exact List.not_mem_append hSpaces hText

variable {α β ε : Type}
variable {row text : α → List Char}
variable {indent : Nat}
variable {items : List α}

/- The lines of written items count up from the first. -/
theorem linesFrom_map
    (number : Nat)
    (hRow : ∀ item ∈ items, ∀ n,
      Line.ofRow? n (row item) =
        some ⟨text item, indent, n⟩) :
    linesFrom number (items.map row) =
      items.mapIdx fun i item =>
        ⟨text item, indent, number + i⟩ := by
  induction items generalizing number with
  | nil => rfl
  | cons item items ih =>
      have hFirst := hRow item List.mem_cons_self number
      have hRest := ih (number + 1) fun other hMem =>
        hRow other (List.mem_cons_of_mem _ hMem)
      have hLater : ∀ i, number + 1 + i = number + (i + 1) := by
        intro i
        omega
      rw [List.map_cons, linesFrom_cons_of_ofRow? _ hFirst,
        hRest, List.mapIdx_cons]
      simp only [hLater, Nat.add_zero]

/- Items that are written at one indent are read at it. -/
theorem indent_of_mem_linesFrom
    (number : Nat)
    (hRow : ∀ item ∈ items, ∀ n,
      Line.ofRow? n (row item) =
        some ⟨text item, indent, n⟩) :
    ∀ line ∈ linesFrom number (items.map row),
      line.indent = indent := by
  rw [linesFrom_map number hRow]
  intro line hMem
  obtain ⟨i, _, rfl⟩ := List.mem_mapIdx.mp hMem
  rfl

/-
  Written items are read line by line, each at its own line,
  when every item is read from the line of its text.
-/
theorem mapM_linesFrom
    {read : Line → Except ε β}
    {give : α → Nat → β}
    (number : Nat)
    (hRow : ∀ item ∈ items, ∀ n,
      Line.ofRow? n (row item) =
        some ⟨text item, indent, n⟩)
    (hRead : ∀ item ∈ items, ∀ n,
      read ⟨text item, indent, n⟩ = .ok (give item n)) :
    (linesFrom number (items.map row)).mapM read =
      .ok (items.mapIdx fun i item =>
        give item (number + i)) := by
  induction items generalizing number with
  | nil => rfl
  | cons item items ih =>
      have hLine := hRow item List.mem_cons_self number
      have hFirst := hRead item List.mem_cons_self number
      have hRest := ih (number + 1)
        (fun other hMem =>
          hRow other (List.mem_cons_of_mem _ hMem))
        (fun other hMem =>
          hRead other (List.mem_cons_of_mem _ hMem))
      have hLater : ∀ i, number + 1 + i = number + (i + 1) := by
        intro i
        omega
      simp only [hLater] at hRest
      rw [List.map_cons, linesFrom_cons_of_ofRow? _ hLine,
        List.mapM_cons, hFirst, hRest, List.mapIdx_cons]
      rfl

end Blueprint

------------------------------------------------------------
-- Inserted Rows
------------------------------------------------------------

namespace Blueprint

open Text

/-
  A document with one more row, put in front of the row at a
  position. The rows count from zero.
-/
def insertRow
    (position : Nat)
    (row : List Char)
    (source : String) : String :=
  let before := (rows source.toList).take position
  let after := (rows source.toList).drop position
  String.ofList (joinWith ['\n'] (before ++ row :: after))

/-
  The number that a row has once another one is put in at a
  position. Line numbers count from one.
-/
def numberAfterInsertion
    (position number : Nat) : Nat :=
  if position < number then number + 1 else number

/- A row of a document holds no line feed. -/
theorem not_mem_of_mem_rows
    {text row : List Char}
    (hRow : row ∈ rows text) :
    '\n' ∉ row := by
  intro hMem
  have hFalse := forall_false_of_mem_splitWhere hRow _ hMem
  simp at hFalse

/- Rows without line feeds are the rows of their text. -/
theorem rows_joinWith
    {pieces : List (List Char)}
    (hSome : pieces ≠ [])
    (hPieces : ∀ piece ∈ pieces, '\n' ∉ piece) :
    rows (joinWith ['\n'] pieces) = pieces :=
  splitWhere_joinWith hSome hPieces

/- The row stands where it was put in. -/
theorem rows_insertRow
    (position : Nat)
    {row : List Char}
    (source : String)
    (hRow : '\n' ∉ row) :
    rows (insertRow position row source).toList =
      (rows source.toList).take position ++
        row :: (rows source.toList).drop position := by
  unfold insertRow
  rw [String.toList_ofList]
  apply rows_joinWith (by simp)
  intro piece hPiece
  rcases List.mem_append.mp hPiece with hBefore | hAfter
  · exact not_mem_of_mem_rows (List.mem_of_mem_take hBefore)
  · rcases List.mem_cons.mp hAfter with rfl | hAfter
    · exact hRow
    · exact not_mem_of_mem_rows (List.mem_of_mem_drop hAfter)

/-
  A row without a line only shifts the numbers of the lines
  after it.
-/
theorem significantLines_insertRow
    (position : Nat)
    {row : List Char}
    (source : String)
    (hFeed : '\n' ∉ row)
    (hRow : IsSkipped row) :
    significantLines (insertRow position row source) =
      (significantLines source).map
        (Line.relaid
          (.renumbering (numberAfterInsertion position))) := by
  unfold significantLines
  rw [rows_insertRow position source hFeed]
  generalize rows source.toList = all
  have hBefore :
      linesFrom 1 (all.take position) =
        (linesFrom 1 (all.take position)).map
          (Line.relaid
            (.renumbering (numberAfterInsertion position))) := by
    apply linesFrom_renumbered
    intro k hShort
    rw [List.length_take] at hShort
    exact if_neg (by omega)
  have hAfter :
      linesFrom (1 + (all.take position).length + 1)
          (all.drop position) =
        (linesFrom (1 + (all.take position).length)
          (all.drop position)).map
          (Line.relaid
            (.renumbering (numberAfterInsertion position))) := by
    apply linesFrom_renumbered
    intro k hShort
    rw [List.length_drop] at hShort
    rw [List.length_take, Nat.min_eq_left (by omega),
      numberAfterInsertion, if_pos (by omega)]
    omega
  have hAll : linesFrom 1 all =
      linesFrom 1 (all.take position ++ all.drop position) := by
    rw [List.take_append_drop]
  rw [hAll, linesFrom_append, linesFrom_append,
    List.map_append, ← hBefore, ← hAfter,
    linesFrom_cons_of_isSkipped _ _ hRow]

end Blueprint

------------------------------------------------------------
-- Padded Rows
------------------------------------------------------------

namespace Blueprint

open Text

/- A row with blanks added at its end. -/
def IsPadded (row padded : List Char) : Prop :=
  ∃ pad, (∀ c ∈ pad, isBlank c = true) ∧ padded = row ++ pad

/- A row that is not blank is indented by its own spaces. -/
theorem indentLevel_append
    {row : List Char}
    (pad : List Char)
    (hRow : ∃ c ∈ row, isBlank c = false) :
    indentLevel (row ++ pad) = indentLevel row := by
  unfold indentLevel
  rw [List.takeWhile_append, if_neg]
  intro hSpaces
  rcases hRow with ⟨c, hMem, hBlank⟩
  have hAll : row.takeWhile (· == ' ') = row :=
    (List.takeWhile_prefix _).eq_of_length hSpaces
  rw [← hAll] at hMem
  have hSpace := List.mem_takeWhile_imp hMem
  rw [beq_iff_eq] at hSpace
  subst hSpace
  cases hBlank

/- Blanks at its end do not change the line of a row. -/
theorem ofRow?_append_of_blank
    (number : Nat)
    (row : List Char)
    {pad : List Char}
    (hPad : ∀ c ∈ pad, isBlank c = true) :
    Line.ofRow? number (row ++ pad) =
      Line.ofRow? number row := by
  have hNone : ∀ c ∈ ([] : List Char), isBlank c = true := by
    simp
  have hTrim : trim (row ++ pad) = trim row :=
    trim_append_of_blank row hNone hPad
  unfold Line.ofRow?
  rw [hTrim]
  split
  · rfl
  · rfl
  · rename_i hText _
    have hSome := exists_not_blank_of_trim_ne_nil hText
    rw [indentLevel_append pad hSome]

/- Padded rows have the same lines. -/
theorem linesFrom_padded
    {rows padded : List (List Char)}
    (hRows : List.Forall₂ IsPadded rows padded)
    (number : Nat) :
    linesFrom number padded = linesFrom number rows := by
  induction hRows generalizing number with
  | nil => rfl
  | cons hRow _ ih =>
      rcases hRow with ⟨pad, hPad, rfl⟩
      rw [linesFrom, linesFrom,
        ofRow?_append_of_blank number _ hPad, ih]

/- A row is padded with nothing. -/
theorem isPadded_refl (row : List Char) : IsPadded row row :=
  ⟨[], by simp, by simp⟩

/- A character in front of the first row stays there. -/
theorem forall₂_consFirst
    {rows padded : List (List Char)}
    (c : Char)
    (hRows : List.Forall₂ IsPadded rows padded) :
    List.Forall₂ IsPadded (consFirst c rows)
      (consFirst c padded) := by
  cases hRows with
  | nil => exact .cons (isPadded_refl _) .nil
  | cons hFirst hMore =>
      rcases hFirst with ⟨pad, hPad, rfl⟩
      exact .cons ⟨pad, hPad, rfl⟩ hMore

end Blueprint

------------------------------------------------------------
-- Line Ends
------------------------------------------------------------

namespace Blueprint

open Text

/- A text with a carriage return before every line feed. -/
def crlfText (text : List Char) : List Char :=
  text.flatMap fun c =>
    if c = '\n' then ['\r', '\n'] else [c]

/- A document with CRLF line ends in place of LF. -/
def crlf (source : String) : String :=
  String.ofList (crlfText source.toList)

/- The carriage returns pad the rows. -/
theorem forall₂_rows_crlfText (text : List Char) :
    List.Forall₂ IsPadded (rows text)
      (rows (crlfText text)) := by
  induction text with
  | nil => exact .cons (isPadded_refl []) .nil
  | cons c text ih =>
      by_cases hFeed : c = '\n'
      · subst hFeed
        have hRows : rows ('\n' :: text) = [] :: rows text :=
          rfl
        have hPadded : rows (crlfText ('\n' :: text)) =
            ['\r'] :: rows (crlfText text) :=
          rfl
        have hReturn : IsPadded [] ['\r'] :=
          ⟨['\r'], List.forall_mem_singleton.mpr rfl, rfl⟩
        rw [hRows, hPadded]
        exact .cons hReturn ih
      · have hText : crlfText (c :: text) =
            c :: crlfText text := by
          rw [crlfText, List.flatMap_cons, if_neg hFeed]
          rfl
        have hSplit : ∀ rest : List Char,
            rows (c :: rest) = consFirst c (rows rest) := by
          intro rest
          rw [rows, splitWhere, if_neg (by simpa using hFeed)]
          rfl
        rw [hText, hSplit, hSplit]
        exact forall₂_consFirst c ih

/- The line ends of a document do not change its lines. -/
theorem significantLines_crlf (source : String) :
    significantLines (crlf source) =
      significantLines source := by
  unfold significantLines crlf
  rw [String.toList_ofList]
  exact linesFrom_padded
    (forall₂_rows_crlfText source.toList) 1

/- A document with a text of its own added to every row. -/
def padRows
    (pad : Nat → List Char)
    (source : String) : String :=
  let padded := (rows source.toList).mapIdx
    fun position row => row ++ pad position
  String.ofList (joinWith ['\n'] padded)

/- Blanks at the ends of rows do not change the lines. -/
theorem significantLines_padRows
    {pad : Nat → List Char}
    (source : String)
    (hPad : ∀ position, ∀ c ∈ pad position,
      isBlank c = true ∧ c ≠ '\n') :
    significantLines (padRows pad source) =
      significantLines source := by
  have hRows : List.Forall₂ IsPadded (rows source.toList)
      ((rows source.toList).mapIdx
        fun position row => row ++ pad position) := by
    rw [List.forall₂_iff_get]
    refine ⟨by simp, ?_⟩
    intro k _ _
    refine ⟨pad k, ?_, by simp⟩
    intro c hMem
    exact (hPad k c hMem).1
  have hSome : (rows source.toList).mapIdx
      (fun position row => row ++ pad position) ≠ [] := by
    rw [Ne, List.mapIdx_eq_nil_iff]
    exact splitWhere_ne_nil _ _
  unfold significantLines padRows
  rw [String.toList_ofList, rows_joinWith hSome]
  · exact linesFrom_padded hRows 1
  · intro piece hPiece hFeed
    rcases List.mem_mapIdx.mp hPiece with
      ⟨position, hShort, rfl⟩
    rcases List.mem_append.mp hFeed with hRow | hBlank
    · exact not_mem_of_mem_rows (List.getElem_mem hShort) hRow
    · exact (hPad position _ hBlank).2 rfl

end Blueprint
