import Blueprint.Text.CodeTable
import Blueprint.Text.Normalization.Table

/-
  Canonical composition, Unicode's normalization form C:
  characters are decomposed, marks are put in order, and
  what can be composed is composed.

  Main definitions:
    * `combiningClass`
    * `decompose`
    * `orderMarks`
    * `compose`
    * `normalize`
-/

------------------------------------------------------------
-- Decomposition
------------------------------------------------------------

namespace Blueprint

namespace Text

/- The entries of `combiningClassTable`. -/
def combiningClasses : List CodeEntry :=
  readTable combiningClassTable

def singletons : List CodeEntry :=
  readTable singletonTable

def decompositions : List CodeEntry :=
  readTable decompositionTable

def compositionExclusions : List CodeEntry :=
  readTable compositionExclusionTable

/- The canonical combining class of a character. -/
def combiningClass (c : Char) : Nat :=
  if c.toNat < 0x300 then
    0
  else
    match lookUp? combiningClasses c with
    | none => 0
    | some e => e.target.headD 0

/- A composed Hangul syllable. -/
def isHangulSyllable (c : Char) : Bool :=
  decide (0xAC00 ≤ c.toNat) && decide (c.toNat ≤ 0xD7A3)

/- The letters of a Hangul syllable. -/
def hangulLetters (c : Char) : List Char :=
  let index := c.toNat - 0xAC00
  let leading := Char.ofNat (0x1100 + index / 588)
  let vowel := Char.ofNat (0x1161 + index % 588 / 28)
  if index % 28 = 0 then
    [leading, vowel]
  else
    [leading, vowel, Char.ofNat (0x11A7 + index % 28)]

/- One step of decomposition, if there is one. -/
def decomposeStep? (c : Char) : Option (List Char) :=
  if c.toNat < 0xC0 then
    none
  else if isHangulSyllable c then
    some (hangulLetters c)
  else
    match lookUp? singletons c with
    | some e => some (e.image c)
    | none => (lookUp? decompositions c).map (·.image c)

/- At most `depth` steps of decomposition. -/
def decomposeChar : Nat → Char → List Char
| 0, c => [c]
| depth + 1, c =>
    match decomposeStep? c with
    | none => [c]
    | some parts => parts.flatMap (decomposeChar depth)

/-
  The full decomposition of a text. No chain of canonical
  decompositions is longer than four steps.
-/
def decompose (text : List Char) : List Char :=
  text.flatMap (decomposeChar 4)

end Text

end Blueprint

------------------------------------------------------------
-- Order of Marks
------------------------------------------------------------

namespace Blueprint

namespace Text

/-
  Put a character with its class in front of an ordered
  text, behind the marks of smaller class.
-/
def consMark
    (mark : Nat × Char) :
    List (Nat × Char) → List (Nat × Char)
| [] => [mark]
| next :: rest =>
    if next.1 ≠ 0 && next.1 < mark.1 then
      next :: consMark mark rest
    else
      mark :: next :: rest

/- A text with classes, and its marks in ascending class. -/
def orderMarks (text : List Char) : List (Nat × Char) :=
  (text.map fun c => (combiningClass c, c)).foldr consMark []

end Text

end Blueprint

------------------------------------------------------------
-- Composition
------------------------------------------------------------

namespace Blueprint

namespace Text

/- A Hangul syllable composed of two parts. -/
def composeHangul? (a b : Char) : Option Char :=
  let x := a.toNat
  let y := b.toNat
  if 0x1100 ≤ x && x ≤ 0x1112 &&
      0x1161 ≤ y && y ≤ 0x1175 then
    some (Char.ofNat
      (0xAC00 + 588 * (x - 0x1100) + 28 * (y - 0x1161)))
  else if isHangulSyllable a && (x - 0xAC00) % 28 = 0 &&
      0x11A8 ≤ y && y ≤ 0x11C2 then
    some (Char.ofNat (x + (y - 0x11A7)))
  else
    none

/- The character composed of two characters. -/
def composePair? (a b : Char) : Option Char :=
  match composeHangul? a b with
  | some syllable => some syllable
  | none =>
      (decompositions.find? fun e =>
        e.target == [a.toNat, b.toNat] &&
          !inTable compositionExclusions
            (Char.ofNat e.first)).map
        fun e => Char.ofNat e.first

/-
  Compose a text that follows the character `base` and the
  marks `kept` after it, read backwards. A mark is composed
  with the base when no mark of its class or a higher one
  stands between them.
-/
def composeAfter
    (base : Char)
    (kept : List (Nat × Char)) :
    List (Nat × Char) → List Char
| [] => base :: (kept.reverse.map Prod.snd)
| next :: rest =>
    let blocked :=
      match kept with
      | [] => false
      | last :: _ => decide (next.1 ≤ last.1)
    match blocked, composePair? base next.2 with
    | false, some composed => composeAfter composed kept rest
    | _, _ =>
        if next.1 = 0 then
          base :: (kept.reverse.map Prod.snd) ++
            composeAfter next.2 [] rest
        else
          composeAfter base (next :: kept) rest

/- Compose a decomposed text with ordered marks. -/
def compose : List (Nat × Char) → List Char
| [] => []
| next :: rest =>
    if next.1 = 0 then
      composeAfter next.2 [] rest
    else
      next.2 :: compose rest

/- The canonical composition of a text. -/
def normalize (text : List Char) : List Char :=
  if text.all fun c => decide (c.toNat < 0x80) then
    text
  else
    compose (orderMarks (decompose text))

end Text

end Blueprint
