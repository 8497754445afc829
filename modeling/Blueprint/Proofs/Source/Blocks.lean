import Blueprint.Source.Block
import Mathlib.Data.List.Nodup

/-
  There is exactly one way to cut lines into blocks: every
  block but the first opens at the level or above it, and
  takes all deeper lines up to the next one.

  Main definition:
    * `IsCut`

  Main statements:
    * `blocks_cons`, `blocks_drop`
    * `isCut_iff`
    * `blocks_lines`
    * `countP_mem_lines`
-/

------------------------------------------------------------
-- One Block at a Time
------------------------------------------------------------

namespace Blueprint

/- The line is deeper than a level. -/
def Line.isDeeper
    (level : Nat)
    (line : Line) : Bool :=
  decide (level < line.indent)

/-
  A line opens a block with the maximal run of deeper lines
  after it, and the next block opens where the run ends.
-/
theorem blocks_cons
    (level : Nat)
    (line : Line)
    (lines : List Line) :
    blocks level (line :: lines) =
      ⟨line, lines.takeWhile (Line.isDeeper level)⟩ ::
        blocks level
          (lines.dropWhile (Line.isDeeper level)) := by
  induction lines generalizing line with
  | nil => rfl
  | cons next lines ih =>
      rw [blocks, ih next, consBlock]
      by_cases hDeep : level < next.indent
      · have hRun : next.isDeeper level = true := by
          simpa [Line.isDeeper] using hDeep
        rw [if_pos hDeep, List.takeWhile_cons_of_pos hRun,
          List.dropWhile_cons_of_pos hRun, Block.lines]
      · have hStop : ¬ next.isDeeper level = true := by
          simpa [Line.isDeeper] using hDeep
        rw [if_neg hDeep, List.takeWhile_cons_of_neg hStop,
          List.dropWhile_cons_of_neg hStop, ih next]

/- Skipping a run of lines is dropping as many of them. -/
theorem drop_length_takeWhile
    (p : Line → Bool)
    (lines : List Line) :
    lines.drop (lines.takeWhile p).length =
      lines.dropWhile p := by
  induction lines with
  | nil => rfl
  | cons line lines ih =>
      by_cases hRun : p line = true
      · simp [hRun, ih]
      · simp [hRun]

/-
  A cursor that stands on a line cuts the block up to its
  end and goes on from there.
-/
theorem blocks_drop
    (level : Nat)
    (lines : List Line)
    (position : Nat)
    (hPosition : position < lines.length) :
    let stop := blockEnd lines (position + 1) level
    blocks level (lines.drop position) =
      ⟨lines[position],
        (lines.take stop).drop (position + 1)⟩ ::
          blocks level (lines.drop stop) := by
  intro stop
  have hStop : stop = position + 1 +
      ((lines.drop (position + 1)).takeWhile
        (Line.isDeeper level)).length := rfl
  have hRun : (lines.drop (position + 1)).takeWhile
      (Line.isDeeper level) =
        (lines.take stop).drop (position + 1) := by
    rw [hStop, List.drop_take, Nat.add_sub_cancel_left]
    exact List.prefix_iff_eq_take.mp
      (List.takeWhile_prefix _)
  have hRest : lines.drop stop =
      (lines.drop (position + 1)).dropWhile
        (Line.isDeeper level) := by
    rw [← drop_length_takeWhile, List.drop_drop, hStop]
  rw [List.drop_eq_getElem_cons hPosition, blocks_cons,
    hRun, ← hRest]

end Blueprint

------------------------------------------------------------
-- The Only Cut
------------------------------------------------------------

namespace Blueprint

/-
  A cut of lines into blocks: nothing is lost or reordered,
  the bodies are deeper than the level, and only the first
  head may be so too.
-/
structure IsCut
    (level : Nat)
    (lines : List Line)
    (bs : List Block) : Prop where
  lines : bs.flatMap Block.lines = lines
  bodies :
    ∀ b ∈ bs, ∀ line ∈ b.body, level < line.indent
  heads : ∀ b ∈ bs.tail, b.head.indent ≤ level

/- The heads after the first do not lie deeper. -/
theorem indent_head_le_of_mem_tail_blocks
    {level : Nat}
    {lines : List Line}
    {b : Block}
    (h : b ∈ (blocks level lines).tail) :
    b.head.indent ≤ level := by
  induction lines with
  | nil => simp [blocks] at h
  | cons line lines ih =>
      unfold blocks consBlock at h
      split at h
      · simp at h
      · rename_i block more hBlocks
        rw [hBlocks] at ih
        split at h
        · exact ih h
        · rename_i hHead
          rcases List.mem_cons.mp h with rfl | hMore
          · exact Nat.not_lt.mp hHead
          · exact ih hMore

/- The blocks of lines are a cut of them. -/
theorem isCut_blocks
    (level : Nat)
    (lines : List Line) :
    IsCut level lines (blocks level lines) where
  lines := flatMap_lines_blocks level lines
  bodies := by
    intro b hBlock line hLine
    exact lt_indent_of_mem_body hBlock hLine
  heads := by
    intro b hBlock
    exact indent_head_le_of_mem_tail_blocks hBlock

/-
  A run of deeper lines ends where the next block opens.
-/
theorem takeWhile_isDeeper_append
    {level : Nat}
    {body : List Line}
    {bs : List Block}
    (hBody : ∀ line ∈ body, level < line.indent)
    (hHeads : ∀ b ∈ bs, b.head.indent ≤ level) :
    (body ++ bs.flatMap Block.lines).takeWhile
        (Line.isDeeper level) = body ∧
      (body ++ bs.flatMap Block.lines).dropWhile
        (Line.isDeeper level) =
          bs.flatMap Block.lines := by
  have hAll : ∀ line ∈ body,
      line.isDeeper level = true := by
    intro line hMem
    simpa [Line.isDeeper] using hBody line hMem
  rw [List.takeWhile_append_of_pos hAll,
    List.dropWhile_append_of_pos hAll]
  cases bs with
  | nil => simp
  | cons b bs =>
      have hHead : ¬ b.head.isDeeper level = true := by
        have hLe := hHeads b List.mem_cons_self
        simpa [Line.isDeeper] using hLe
      rw [List.flatMap_cons, Block.lines, List.cons_append,
        List.takeWhile_cons_of_neg hHead,
        List.dropWhile_cons_of_neg hHead, List.append_nil]
      exact ⟨rfl, rfl⟩

/- A cut can only be the one into the blocks. -/
theorem IsCut.eq_blocks
    {level : Nat}
    {lines : List Line}
    {bs : List Block}
    (hCut : IsCut level lines bs) :
    bs = blocks level lines := by
  induction bs generalizing lines with
  | nil =>
      rw [← hCut.lines]
      rfl
  | cons b bs ih =>
      have hBody := hCut.bodies b List.mem_cons_self
      have hRest : IsCut level (bs.flatMap Block.lines) bs := by
        refine ⟨rfl, ?_, ?_⟩
        · intro c hMem
          exact hCut.bodies c (List.mem_cons_of_mem _ hMem)
        · intro c hMem
          exact hCut.heads c (List.mem_of_mem_tail hMem)
      have hRun := takeWhile_isDeeper_append hBody hCut.heads
      rw [List.tail_cons] at hRun
      rw [← hCut.lines, List.flatMap_cons, Block.lines,
        List.cons_append, blocks_cons, hRun.1, hRun.2,
        ← ih hRest]

/- The blocks are the only cut. -/
theorem isCut_iff
    {level : Nat}
    {lines : List Line}
    {bs : List Block} :
    IsCut level lines bs ↔ bs = blocks level lines := by
  constructor
  · exact IsCut.eq_blocks
  · rintro rfl
    exact isCut_blocks level lines

/- The lines of a block are cut into that block alone. -/
theorem blocks_lines
    {level : Nat}
    {lines : List Line}
    {b : Block}
    (hBlock : b ∈ blocks level lines) :
    blocks level b.lines = [b] := by
  have hCut : IsCut level b.lines [b] := by
    refine ⟨List.flatMap_singleton _ _, ?_, nofun⟩
    intro c hMem line hLine
    rw [List.mem_singleton] at hMem
    subst hMem
    exact lt_indent_of_mem_body hBlock hLine
  exact hCut.eq_blocks.symm

end Blueprint

------------------------------------------------------------
-- The Block of a Line
------------------------------------------------------------

namespace Blueprint

/- Among different lines, each lies in exactly one block. -/
theorem countP_mem_lines
    {bs : List Block}
    {line : Line}
    (hNodup : (bs.flatMap Block.lines).Nodup)
    (hLine : line ∈ bs.flatMap Block.lines) :
    bs.countP (fun b => decide (line ∈ b.lines)) = 1 := by
  induction bs with
  | nil => cases hLine
  | cons b bs ih =>
      rw [List.flatMap_cons, List.nodup_append'] at hNodup
      rcases hNodup with ⟨_, hRest, hDisjoint⟩
      rw [List.flatMap_cons, List.mem_append] at hLine
      by_cases hHere : line ∈ b.lines
      · have hNone :
            bs.countP (fun c => decide (line ∈ c.lines)) =
              0 := by
          rw [List.countP_eq_zero]
          intro c hMem hThere
          rw [decide_eq_true_eq] at hThere
          exact hDisjoint hHere
            (List.mem_flatMap.mpr ⟨c, hMem, hThere⟩)
        rw [List.countP_cons_of_pos (by simpa using hHere),
          hNone]
      · rw [List.countP_cons_of_neg (by simpa using hHere)]
        exact ih hRest (hLine.resolve_left hHere)

end Blueprint
