import Blueprint.Text.Cut

/-
  Large tables of code points, kept as text.

  A table is a list of entries between blanks. An entry is a
  code point `A`, a range `A-B` or a range with a step
  `A-B/S`, in hexadecimal, and it may name a target after
  `>`: one or more code points with dots between them.

  Main definitions:
    * `CodeEntry`, `CodeEntry.ofText`
    * `readTable`
    * `lookUp?`, `inTable`
    * `CodeEntry.image`
-/

------------------------------------------------------------
-- Entries
------------------------------------------------------------

namespace Blueprint

namespace Text

/- A run of code points and what it is sent to. -/
structure CodeEntry where
  first : Nat
  last : Nat
  step : Nat
  target : List Nat
deriving DecidableEq, Repr

/- The value of an uppercase hexadecimal digit. -/
def hexDigitValue (c : Char) : Nat :=
  if c.isDigit then c.toNat - 48 else c.toNat - 55

/- The value of uppercase hexadecimal digits. -/
def hexValue (digits : List Char) : Nat :=
  digits.foldl (fun n c => 16 * n + hexDigitValue c) 0

/- The parts before and after a mark, if it occurs. -/
def parted
    (mark : Char)
    (text : List Char) : List Char × Option (List Char) :=
  match cutAt (· == mark) text with
  | some (before, after) => (before, some after)
  | none => (text, none)

namespace CodeEntry

/- The entry that a text writes. -/
def ofText (text : List Char) : CodeEntry :=
  let (source, target) := parted '>' text
  let (range, step) := parted '/' source
  let (first, last) := parted '-' range
  { first := hexValue first
    last := hexValue (last.getD first)
    step := (step.map hexValue).getD 1
    target :=
      match target with
      | none => []
      | some codes =>
          (splitWhere (· == '.') codes).map hexValue }

/- A character belongs to the run of an entry. -/
def contains
    (e : CodeEntry)
    (c : Char) : Bool :=
  decide (e.first ≤ c.toNat) && decide (c.toNat ≤ e.last) &&
    (c.toNat - e.first) % e.step == 0

/-
  What a character of the run is sent to: the target, moved
  by its distance from the first character.
-/
def image
    (e : CodeEntry)
    (c : Char) : List Char :=
  e.target.map fun code =>
    Char.ofNat (code + (c.toNat - e.first))

end CodeEntry

end Text

end Blueprint

------------------------------------------------------------
-- Tables
------------------------------------------------------------

namespace Blueprint

namespace Text

/- The entries of a table. -/
def readTable (lines : List String) : List CodeEntry :=
  lines.flatMap fun line =>
    (splitWhere (· == ' ') line.toList).map CodeEntry.ofText

/- The first entry that a character belongs to. -/
def lookUp?
    (table : List CodeEntry)
    (c : Char) : Option CodeEntry :=
  table.find? fun e => e.contains c

/- A character belongs to some entry. -/
def inTable
    (table : List CodeEntry)
    (c : Char) : Bool :=
  table.any fun e => e.contains c

end Text

end Blueprint
