import Blueprint.Source.Line

/-
  Blocks of lines: a head together with the deeper lines
  that follow it.

  Main definitions:
    * `Block`
    * `blocks`
    * `blockEnd`

  Main statements:
    * `flatMap_lines_blocks`
    * `lt_indent_of_mem_body`
-/

------------------------------------------------------------
-- Blocks
------------------------------------------------------------

namespace Blueprint

/- A line and the lines that belong to it. -/
structure Block where
  head : Line
  body : List Line
deriving DecidableEq, Repr

namespace Block

/- All lines of a block. -/
def lines (b : Block) : List Line :=
  b.head :: b.body

end Block

/-
  Put a line in front of a list of blocks. A block whose
  head is deeper than `level` joins the block of the line.
-/
def consBlock
    (level : Nat)
    (line : Line) : List Block → List Block
| [] => [⟨line, []⟩]
| block :: more =>
    if level < block.head.indent then
      ⟨line, block.lines⟩ :: more
    else
      ⟨line, []⟩ :: block :: more

/-
  Cut lines into blocks: every line at `level` or above it
  opens a block, and so does the first line of all.
-/
def blocks (level : Nat) : List Line → List Block
| [] => []
| line :: lines => consBlock level line (blocks level lines)

/-
  One past the last line of the block whose body starts at
  `start` and whose owner has indent `ownerIndent`.
-/
def blockEnd
    (lines : List Line)
    (start ownerIndent : Nat) : Nat :=
  let body := (lines.drop start).takeWhile
    fun line => decide (ownerIndent < line.indent)
  start + body.length

end Blueprint

------------------------------------------------------------
-- Lines of the Blocks
------------------------------------------------------------

namespace Blueprint

/- Putting a line in front loses and reorders nothing. -/
theorem flatMap_lines_consBlock
    (level : Nat)
    (line : Line)
    (bs : List Block) :
    (consBlock level line bs).flatMap Block.lines =
      line :: bs.flatMap Block.lines := by
  unfold consBlock
  split
  · simp [Block.lines]
  · split <;> simp [Block.lines]

/- The blocks hold exactly the given lines, in order. -/
theorem flatMap_lines_blocks
    (level : Nat)
    (lines : List Line) :
    (blocks level lines).flatMap Block.lines = lines := by
  induction lines with
  | nil => rfl
  | cons line lines ih =>
      rw [blocks, flatMap_lines_consBlock, ih]

/- The lines of a body are deeper than the level. -/
theorem lt_indent_of_mem_body
    {level : Nat}
    {lines : List Line}
    {b : Block}
    {line : Line}
    (hBlock : b ∈ blocks level lines)
    (hLine : line ∈ b.body) :
    level < line.indent := by
  induction lines generalizing b line with
  | nil => simp [blocks] at hBlock
  | cons first lines ih =>
      unfold blocks consBlock at hBlock
      split at hBlock
      · simp only [List.mem_singleton] at hBlock
        subst hBlock
        simp at hLine
      · rename_i block more hBlocks
        rw [hBlocks] at ih
        split at hBlock
        · rename_i hDeep
          rcases List.mem_cons.mp hBlock with rfl | hMore
          · rcases List.mem_cons.mp hLine with rfl | hBody
            · exact hDeep
            · exact ih (List.mem_cons_self ..) hBody
          · exact ih (List.mem_cons_of_mem _ hMore) hLine
        · rcases List.mem_cons.mp hBlock with rfl | hMore
          · simp at hLine
          · exact ih hMore hLine

end Blueprint
