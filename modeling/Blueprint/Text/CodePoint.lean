/-
  Sets of characters given by tables of code points.

  A table lists either maximal ranges or runs with a step,
  since letter case alternates in long stretches of the
  Unicode standard.

  Main definitions:
    * `inRanges`
    * `inRuns`
    * `shift?`
-/

------------------------------------------------------------
-- Tables of Code Points
------------------------------------------------------------

namespace Blueprint

namespace Text

/- A character lies in one of the listed ranges. -/
def inRanges
    (table : List (Nat × Nat))
    (c : Char) : Bool :=
  table.any fun (first, last) =>
    decide (first ≤ c.toNat) && decide (c.toNat ≤ last)

/- A code point lies in the run from `first` to `last`. -/
def inRun
    (first last step : Nat)
    (n : Nat) : Bool :=
  decide (first ≤ n) && decide (n ≤ last) &&
    (n - first) % step == 0

/- A character lies in one of the listed runs. -/
def inRuns
    (table : List (Nat × Nat × Nat))
    (c : Char) : Bool :=
  table.any fun (first, last, step) =>
    inRun first last step c.toNat

/-
  The character at the offset that the table gives for the
  run of `c`, if `c` lies in one.
-/
def shift?
    (table : List (Nat × Nat × Nat × Int))
    (c : Char) : Option Char :=
  table.findSome? fun (first, last, step, offset) =>
    if inRun first last step c.toNat then
      some (Char.ofNat (c.toNat + offset).toNat)
    else
      none

end Text

end Blueprint
