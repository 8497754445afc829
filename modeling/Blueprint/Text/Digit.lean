import Blueprint.Text.CodePoint
import Blueprint.Text.Digit.Table

/-
  Digits and the reading of bounded integers.

  Main definitions:
    * `isDecimalDigit`
    * `hexDigit?`, `readBase?`
    * `readNat?`
    * `readInt?`
    * `readInt64?`, `readUInt32?`
-/

------------------------------------------------------------
-- Digits
------------------------------------------------------------

namespace Blueprint

namespace Text

/- A decimal digit of any script. -/
def isDecimalDigit (c : Char) : Bool :=
  if c.toNat < 128 then
    c.isDigit
  else
    inRanges digitRanges c

/- The number that a run of ASCII digits writes. -/
def digitsValue (digits : List Char) : Nat :=
  digits.foldl
    (fun value c => 10 * value + (c.toNat - 48)) 0

end Text

end Blueprint

------------------------------------------------------------
-- Digits of Other Bases
------------------------------------------------------------

namespace Blueprint

namespace Text

/- The value of a hexadecimal digit of either case. -/
def hexDigit? (c : Char) : Option Nat :=
  if c.isDigit then
    some (c.toNat - 48)
  else if 'a' ≤ c && c ≤ 'f' then
    some (c.toNat - 87)
  else if 'A' ≤ c && c ≤ 'F' then
    some (c.toNat - 55)
  else
    none

/- The number that digits below `base` write. -/
def readBase?
    (base : Nat)
    (text : List Char) : Option Nat :=
  text.foldlM (fun n c =>
    match hexDigit? c with
    | some d => if d < base then some (base * n + d) else none
    | none => none) 0

end Text

end Blueprint

------------------------------------------------------------
-- Integers
------------------------------------------------------------

namespace Blueprint

namespace Text

/- Read one or more ASCII digits. -/
def readNat? (text : List Char) : Option Nat :=
  if !text.isEmpty && text.all Char.isDigit then
    some (digitsValue text)
  else
    none

/- Read ASCII digits after an optional sign. -/
def readInt? : List Char → Option Int
| '-' :: digits =>
    (readNat? digits).map fun n => -(n : Int)
| '+' :: digits =>
    (readNat? digits).map fun n => (n : Int)
| digits =>
    (readNat? digits).map fun n => (n : Int)

/- Read an integer that fits in 64 bits with its sign. -/
def readInt64? (text : List Char) : Option Int64 := do
  let n ← readInt? text
  if Int64.minValue.toInt ≤ n ∧ n ≤ Int64.maxValue.toInt then
    some (Int64.ofInt n)
  else
    none

/- Read a natural number that fits in 32 bits. -/
def readUInt32? (text : List Char) : Option UInt32 := do
  let n ← readNat? text
  if n < UInt32.size then
    some (UInt32.ofNat n)
  else
    none

end Text

end Blueprint
