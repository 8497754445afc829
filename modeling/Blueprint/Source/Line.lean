import Blueprint.Text.Blank
import Blueprint.Text.Cut

/-
  The significant lines of a source document.

  A document is cut into rows at line feeds. A row that is
  blank or a comment is dropped; every other row becomes a
  line that keeps its number, its indent level and its
  trimmed text. Numbers have no bound here, where a program
  counts in 32 bits: the numbers of a document agree if it
  has fewer than 2^32 rows.

  Main definitions:
    * `Line`
    * `indentLevel`
    * `Line.ofRow?`
    * `significantLines`

  Main statements:
    * `significantLines_number_pairwise`
    * `toNat_ofNat_significantLines_number`
-/

------------------------------------------------------------
-- Lines
------------------------------------------------------------

namespace Blueprint

open Text

/-
  A significant line: its trimmed text, its indent level and
  its number, counted from one.
-/
structure Line where
  text : List Char
  indent : Nat
  number : Nat
deriving DecidableEq, Repr

namespace Line

/- The text of a line as a string. -/
def content (line : Line) : String :=
  String.ofList line.text

end Line

/-
  Two leading spaces make one indent level. Only spaces
  count: a tab ends the indentation.
-/
def indentLevel (row : List Char) : Nat :=
  (row.takeWhile (· == ' ')).length / 2

/- The significant line of a row, if it has one. -/
def Line.ofRow?
    (number : Nat)
    (row : List Char) : Option Line :=
  match trim row with
  | [] => none
  | '#' :: _ => none
  | text => some ⟨text, indentLevel row, number⟩

/- The significant lines of the rows from row `number` on. -/
def linesFrom
    (number : Nat) : List (List Char) → List Line
| [] => []
| row :: rows =>
    match Line.ofRow? number row with
    | none => linesFrom (number + 1) rows
    | some line => line :: linesFrom (number + 1) rows

/- The rows of a document. -/
def rows (source : List Char) : List (List Char) :=
  splitWhere (· == '\n') source

/- The significant lines of a document, in order. -/
def significantLines (source : String) : List Line :=
  linesFrom 1 (rows source.toList)

end Blueprint

------------------------------------------------------------
-- Numbering
------------------------------------------------------------

namespace Blueprint

open Text

/- A line carries the number of its row. -/
theorem Line.number_of_ofRow?
    {number : Nat}
    {row : List Char}
    {line : Line}
    (h : Line.ofRow? number row = some line) :
    line.number = number := by
  unfold Line.ofRow? at h
  split at h
  · cases h
  · cases h
  · cases h
    rfl

/- Lines are numbered from their first row on. -/
theorem le_number_of_mem_linesFrom
    {number : Nat}
    {rows : List (List Char)}
    {line : Line}
    (h : line ∈ linesFrom number rows) :
    number ≤ line.number := by
  induction rows generalizing number with
  | nil => simp [linesFrom] at h
  | cons row rows ih =>
      unfold linesFrom at h
      split at h
      · exact Nat.le_of_succ_le (ih h)
      · rename_i first hFirst
        rcases List.mem_cons.mp h with rfl | hMem
        · exact Nat.le_of_eq (Line.number_of_ofRow? hFirst).symm
        · exact Nat.le_of_succ_le (ih hMem)

/- Lines are numbered up to their last row. -/
theorem number_lt_of_mem_linesFrom
    {number : Nat}
    {rows : List (List Char)}
    {line : Line}
    (h : line ∈ linesFrom number rows) :
    line.number < number + rows.length := by
  induction rows generalizing number with
  | nil => simp [linesFrom] at h
  | cons row rows ih =>
      rw [List.length_cons]
      unfold linesFrom at h
      split at h
      · have hRest := ih h
        omega
      · rename_i first hFirst
        rcases List.mem_cons.mp h with rfl | hMem
        · have hNumber := Line.number_of_ofRow? hFirst
          omega
        · have hRest := ih hMem
          omega

/- Line numbers increase strictly. -/
theorem linesFrom_number_pairwise
    (number : Nat)
    (rows : List (List Char)) :
    (linesFrom number rows).Pairwise
      (fun a b => a.number < b.number) := by
  induction rows generalizing number with
  | nil => simp [linesFrom]
  | cons row rows ih =>
      unfold linesFrom
      split
      · exact ih (number + 1)
      · rename_i first hFirst
        refine List.pairwise_cons.mpr ⟨?_, ih (number + 1)⟩
        intro line hLine
        rw [Line.number_of_ofRow? hFirst]
        exact le_number_of_mem_linesFrom hLine

/- The significant lines of a document stand in order. -/
theorem significantLines_number_pairwise
    (source : String) :
    (significantLines source).Pairwise
      (fun a b => a.number < b.number) :=
  linesFrom_number_pairwise 1 _

/-
  A counter of 32 bits numbers the lines of a document alike
  if the document has fewer than 2^32 rows.
-/
theorem toNat_ofNat_significantLines_number
    {source : String}
    {line : Line}
    (hRows : (rows source.toList).length < UInt32.size)
    (hLine : line ∈ significantLines source) :
    (UInt32.ofNat line.number).toNat = line.number := by
  have hBelow := number_lt_of_mem_linesFrom hLine
  exact UInt32.toNat_ofNat_of_lt (by omega)

end Blueprint
