import Blueprint.Proofs.Source.Blocks
import Blueprint.Source.Phrase
import Mathlib.Order.Monotone.Basic

/-
  Lines laid out anew: other line numbers, and other indents
  in the same order of depth. What readers are made of
  commutes with the new layout: the same lines make up a
  block, and the same line is blamed for the same cause.

  Main definitions:
    * `Layout`
    * `Line.relaid`, `Block.relaid`
    * `Location.moved`, `Fault.moved`, `movedReading`

  Main statements:
    * `blocks_map_relaid`
    * `blame_relaid`, `checkEven_relaid`
    * `bind_eq_movedReading`, `mapM_eq_movedReading`
-/

------------------------------------------------------------
-- Layouts
------------------------------------------------------------

namespace Blueprint

/-
  Where the lines of a document are put: a new number for
  every number, and a new indent for every indent. A deeper
  line stays deeper, and a line that is not indented stays
  so.
-/
structure Layout where
  number : Nat → Nat
  indent : Nat → Nat
  indent_strictMono : StrictMono indent
  indent_zero : indent 0 = 0

namespace Layout

variable (layout : Layout)

/- Lines are as deep as each other in both layouts. -/
theorem indent_lt_indent_iff
    {a b : Nat} :
    layout.indent a < layout.indent b ↔ a < b :=
  layout.indent_strictMono.lt_iff_lt

/- Different indents stay different. -/
theorem indent_inj
    {a b : Nat} :
    layout.indent a = layout.indent b ↔ a = b :=
  layout.indent_strictMono.injective.eq_iff

/- Indented lines are indented in both layouts. -/
theorem indent_pos_iff
    {a : Nat} :
    0 < layout.indent a ↔ 0 < a := by
  have hZero :=
    layout.indent_lt_indent_iff (a := 0) (b := a)
  rwa [layout.indent_zero] at hZero

/- The layout that only gives lines new numbers. -/
def renumbering (number : Nat → Nat) : Layout where
  number := number
  indent := id
  indent_strictMono := strictMono_id
  indent_zero := rfl

end Layout

/- A line at its new place. -/
def Line.relaid
    (layout : Layout)
    (line : Line) : Line where
  text := line.text
  indent := layout.indent line.indent
  number := layout.number line.number

/- A block with its lines at their new places. -/
def Block.relaid
    (layout : Layout)
    (b : Block) : Block where
  head := b.head.relaid layout
  body := b.body.map (Line.relaid layout)

end Blueprint

------------------------------------------------------------
-- Blocks of Relaid Lines
------------------------------------------------------------

namespace Blueprint

variable (layout : Layout)

/- A line opens or joins a block in both layouts. -/
theorem consBlock_map_relaid
    (level : Nat)
    (line : Line)
    (bs : List Block) :
    consBlock (layout.indent level) (line.relaid layout)
        (bs.map (Block.relaid layout)) =
      (consBlock level line bs).map
        (Block.relaid layout) := by
  cases bs with
  | nil => rfl
  | cons b bs =>
      have hDeeper :
          layout.indent level < (b.relaid layout).head.indent ↔
            level < b.head.indent :=
        layout.indent_lt_indent_iff
      rw [List.map_cons, consBlock, consBlock]
      simp only [hDeeper]
      by_cases hJoins : level < b.head.indent
      · rw [if_pos hJoins, if_pos hJoins]
        rfl
      · rw [if_neg hJoins, if_neg hJoins]
        rfl

/- The same lines make up the blocks of both layouts. -/
theorem blocks_map_relaid
    (level : Nat)
    (lines : List Line) :
    blocks (layout.indent level)
        (lines.map (Line.relaid layout)) =
      (blocks level lines).map (Block.relaid layout) := by
  induction lines with
  | nil => rfl
  | cons line lines ih =>
      rw [List.map_cons, blocks, ih, consBlock_map_relaid,
        blocks]

end Blueprint

------------------------------------------------------------
-- Moved Readings
------------------------------------------------------------

namespace Blueprint

variable {α β : Type}

/- A place, with its line under its new number. -/
def Location.moved
    (number : Nat → Nat)
    (place : Location) : Location where
  file := place.file
  line := number place.line

/- A fault at its new place. -/
def Fault.moved
    (number : Nat → Nat)
    (fault : Fault) : Fault where
  location := fault.location.moved number
  cause := fault.cause

/-
  A reading with everything at its new place: what it gives
  is moved by `move`.
-/
def movedReading
    (number : Nat → Nat)
    (move : α → α) : Except Fault α → Except Fault α
| .ok a => .ok (move a)
| .error fault => .error (fault.moved number)

variable {number : Nat → Nat}
variable {moveA : α → α}
variable {moveB : β → β}

/- Readings one after the other are moved one by one. -/
theorem bind_eq_movedReading
    {reading relaid : Except Fault α}
    {next relaidNext : α → Except Fault β}
    (hFirst : relaid = movedReading number moveA reading)
    (hNext : ∀ a,
      relaidNext (moveA a) =
        movedReading number moveB (next a)) :
    relaid >>= relaidNext =
      movedReading number moveB (reading >>= next) := by
  subst hFirst
  cases reading with
  | error fault => rfl
  | ok a => exact hNext a

/- What a reading gives may be packed up before or after. -/
theorem map_eq_movedReading
    {reading relaid : Except Fault α}
    {f : α → β}
    (hReading : relaid = movedReading number moveA reading)
    (hF : ∀ a, f (moveA a) = moveB (f a)) :
    relaid.map f =
      movedReading number moveB (reading.map f) := by
  subst hReading
  cases reading with
  | error fault => rfl
  | ok a => exact congrArg Except.ok (hF a)

/- The items of a list are moved one by one. -/
theorem mapM_eq_movedReading
    {γ : Type}
    {relay : γ → γ}
    {read relaidRead : γ → Except Fault α}
    (hRead : ∀ item,
      relaidRead (relay item) =
        movedReading number moveA (read item))
    (items : List γ) :
    (items.map relay).mapM relaidRead =
      movedReading number (List.map moveA)
        (items.mapM read) := by
  induction items with
  | nil => rfl
  | cons item items ih =>
      rw [List.map_cons, List.mapM_cons, List.mapM_cons]
      apply bind_eq_movedReading (hRead item)
      intro first
      apply bind_eq_movedReading ih
      intro rest
      rfl

end Blueprint

------------------------------------------------------------
-- Relaid Blame
------------------------------------------------------------

namespace Blueprint

variable {α : Type}
variable {file : String}
variable (layout : Layout)

/- A line at its new place is at the moved old place. -/
theorem location_relaid
    (line : Line) :
    (line.relaid layout).location file =
      (line.location file).moved layout.number :=
  rfl

/- The blame for a line follows the line to its new place. -/
theorem blame_relaid
    (line : Line)
    (result : Except Cause α)
    (move : α → α) :
    (line.relaid layout).blame file (result.map move) =
      movedReading layout.number move
        (line.blame file result) := by
  cases result with
  | error cause => rfl
  | ok a => rfl

/- So it does when nothing in the result has a place. -/
theorem blame_relaid_id
    (line : Line)
    (result : Except Cause α) :
    (line.relaid layout).blame file result =
      movedReading layout.number id
        (line.blame file result) := by
  cases result with
  | error cause => rfl
  | ok a => rfl

/- The same line is found to stick out. -/
theorem find?_uneven_relaid
    (first : Line)
    (lines : List Line) :
    (lines.map (Line.relaid layout)).find?
        (·.indent != (first.relaid layout).indent) =
      (lines.find? (·.indent != first.indent)).map
        (Line.relaid layout) := by
  have hSame :
      (fun line : Line =>
          line.indent != (first.relaid layout).indent) ∘
        Line.relaid layout =
          fun line : Line => line.indent != first.indent := by
    funext line
    have hEq := layout.indent_inj
      (a := line.indent) (b := first.indent)
    rw [Bool.eq_iff_iff, Function.comp, bne_iff_ne,
      bne_iff_ne]
    exact not_congr hEq
  rw [List.find?_map, hSame]

/- A body is as even as it was. -/
theorem checkEven_relaid
    (keyword : Keyword)
    (body : List Line) :
    checkEven file keyword
        (body.map (Line.relaid layout)) =
      movedReading layout.number id
        (checkEven file keyword body) := by
  cases body with
  | nil => rfl
  | cons first rest =>
      rw [List.map_cons, checkEven, checkEven,
        find?_uneven_relaid]
      cases rest.find? (·.indent != first.indent) with
      | none => rfl
      | some line => rfl

end Blueprint
