/-
  Blank characters and the trimming of text.

  Main definitions:
    * `isBlank`
    * `trimStart`, `trimEnd`, `trim`
    * `dropEndWhile`, `trimMatches`
    * `skipBlanks?`
    * `isBlankText`
-/

------------------------------------------------------------
-- Blank Characters
------------------------------------------------------------

namespace Blueprint

namespace Text

/-
  The characters of the Unicode property White_Space: the
  ASCII blanks and line breaks, the next-line control, and
  the spaces and separators of other blocks.
-/
def isBlank (c : Char) : Bool :=
  (decide (9 ≤ c.toNat) && decide (c.toNat ≤ 13)) ||
  c.toNat == 0x20 ||
  c.toNat == 0x85 ||
  c.toNat == 0xA0 ||
  c.toNat == 0x1680 ||
  (decide (0x2000 ≤ c.toNat) && decide (c.toNat ≤ 0x200A)) ||
  c.toNat == 0x2028 ||
  c.toNat == 0x2029 ||
  c.toNat == 0x202F ||
  c.toNat == 0x205F ||
  c.toNat == 0x3000

end Text

end Blueprint

------------------------------------------------------------
-- Trimming
------------------------------------------------------------

namespace Blueprint

namespace Text

/- Drop the longest tail of characters satisfying `p`. -/
def dropEndWhile
    (p : Char → Bool)
    (text : List Char) : List Char :=
  (text.reverse.dropWhile p).reverse

/- Drop leading blanks. -/
def trimStart (text : List Char) : List Char :=
  text.dropWhile isBlank

/- Drop trailing blanks. -/
def trimEnd (text : List Char) : List Char :=
  dropEndWhile isBlank text

/- Drop leading and trailing blanks. -/
def trim (text : List Char) : List Char :=
  trimEnd (trimStart text)

/- Drop every leading and trailing occurrence of `mark`. -/
def trimMatches
    (mark : Char)
    (text : List Char) : List Char :=
  dropEndWhile (· == mark) (text.dropWhile (· == mark))

/- The text after one or more leading blanks. -/
def skipBlanks? : List Char → Option (List Char)
| [] => none
| c :: rest =>
    if isBlank c then some (trimStart rest) else none

/- A text of blanks only. -/
def isBlankText (text : List Char) : Bool :=
  (trim text).isEmpty

end Text

end Blueprint
