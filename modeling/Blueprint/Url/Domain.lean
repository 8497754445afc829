import Blueprint.Text.Normalization
import Blueprint.Url.Domain.Script
import Blueprint.Url.Domain.Table
import Blueprint.Url.Punycode

/-
  Internationalized domain names.

  A name is mapped character by character, composed, and cut
  into labels at full stops. A label that is spelled in
  punycode is decoded. Every label has to be well formed, and
  in a name with letters written from right to left every
  label has to have a clear direction.

  Main definitions:
    * `mapDomainChar?`
    * `Label.isWellFormed`
    * `hasClearDirection`
    * `domainLabels?`
-/

------------------------------------------------------------
-- Mapping
------------------------------------------------------------

namespace Blueprint

open Text

namespace Url

/- The entries of `mappingTable`. -/
def mappings : List CodeEntry :=
  readTable mappingTable

def ignoredChars : List CodeEntry :=
  readTable ignoredTable

def disallowedChars : List CodeEntry :=
  readTable disallowedTable

/-
  What a character stands for in a domain name, if it may
  occur in one at all.
-/
def mapDomainChar? (c : Char) : Option (List Char) :=
  if c.toNat < 0x80 then
    some [c.toLower]
  else
    match lookUp? mappings c with
    | some e => some (e.image c)
    | none =>
        if inTable ignoredChars c then
          some []
        else if inTable disallowedChars c then
          none
        else
          some [c]

/- The mapped and composed text of a domain name. -/
def mapDomain?
    (text : List Char) : Option (List Char) :=
  (text.mapM mapDomainChar?).map fun parts =>
    normalize parts.flatten

end Url

end Blueprint

------------------------------------------------------------
-- Joiners
------------------------------------------------------------

namespace Blueprint

open Text

namespace Url

def marks : List CodeEntry :=
  readTable markTable

/- The letters that join to a letter that follows. -/
def joiningForward : List CodeEntry :=
  readTable (dualJoiningTable ++ leftJoiningTable)

/- The letters that join to a letter that precedes. -/
def joiningBackward : List CodeEntry :=
  readTable (dualJoiningTable ++ rightJoiningTable)

def transparentChars : List CodeEntry :=
  readTable transparentTable

/- The character before the position is a virama. -/
def followsVirama (before : List Char) : Bool :=
  before.head?.any fun c => combiningClass c == 9

/- The letters around the position would join. -/
def separatesJoining (before after : List Char) : Bool :=
  let transparent := inTable transparentChars
  (before.dropWhile transparent).head?.any
      (inTable joiningForward) &&
    (after.dropWhile transparent).head?.any
      (inTable joiningBackward)

/-
  Every joiner or non-joiner in a label that follows
  `before`, read backwards, has a use where it stands.
-/
def joinersAllowed
    (before : List Char) : List Char → Bool
| [] => true
| c :: rest =>
    let allowed :=
      if c = '\u200C' then
        followsVirama before || separatesJoining before rest
      else if c = '\u200D' then
        followsVirama before
      else
        true
    allowed && joinersAllowed (c :: before) rest

end Url

end Blueprint

------------------------------------------------------------
-- Direction
------------------------------------------------------------

namespace Blueprint

open Text

namespace Url

/- How a character behaves in text of mixed direction. -/
inductive Direction where
| leftToRight
| rightToLeft
| arabicNumber
| europeanNumber
| nonspacing
| neutral
deriving DecidableEq, Repr

def rightToLeftChars : List CodeEntry :=
  readTable rightToLeftTable

def arabicNumbers : List CodeEntry :=
  readTable arabicNumberTable

def europeanNumbers : List CodeEntry :=
  readTable europeanNumberTable

def nonspacingChars : List CodeEntry :=
  readTable nonspacingTable

def neutralChars : List CodeEntry :=
  readTable neutralTable

/- The direction of a character. -/
def directionOf (c : Char) : Direction :=
  if c.toNat < 0x80 then
    if c.isAlpha then .leftToRight
    else if c.isDigit then .europeanNumber
    else .neutral
  else if inTable rightToLeftChars c then .rightToLeft
  else if inTable arabicNumbers c then .arabicNumber
  else if inTable europeanNumbers c then .europeanNumber
  else if inTable nonspacingChars c then .nonspacing
  else if inTable neutralChars c then .neutral
  else .leftToRight

/- A label with these directions ends clearly. -/
def endsWith
    (allowed : List Direction)
    (directions : List Direction) : Bool :=
  (directions.reverse.dropWhile (· == .nonspacing)).head?.any
    allowed.contains

/-
  A label reads in one direction: what it starts with, what
  it holds and what it ends with agree, and its digits are of
  one kind.
-/
def hasClearDirection (directions : List Direction) : Bool :=
  match directions with
  | [] => true
  | .rightToLeft :: _ =>
      !directions.contains .leftToRight &&
        endsWith [.rightToLeft, .europeanNumber,
          .arabicNumber] directions &&
        !(directions.contains .europeanNumber &&
          directions.contains .arabicNumber)
  | .leftToRight :: _ =>
      !directions.contains .rightToLeft &&
        !directions.contains .arabicNumber &&
        endsWith [.leftToRight, .europeanNumber] directions
  | _ => false

/- A label makes the direction of a name matter. -/
def isDirectional (directions : List Direction) : Bool :=
  directions.contains .rightToLeft ||
    directions.contains .arabicNumber

end Url

end Blueprint

------------------------------------------------------------
-- Labels
------------------------------------------------------------

namespace Blueprint

open Text

namespace Url

/- The ASCII characters that a domain name cannot hold. -/
def isForbiddenInDomain (c : Char) : Bool :=
  decide (c.toNat ≤ 0x20) || c.toNat == 0x7F ||
    "%#/:<>?@[\\]^|".toList.contains c

/- What starts a label that is spelled in punycode. -/
def punycodeMark : List Char :=
  "xn--".toList

namespace Label

/-
  A label holds no forbidden character, starts with no mark
  and uses joiners only where they have an effect.
-/
def isWellFormed (label : List Char) : Bool :=
  !label.any isForbiddenInDomain &&
    !label.head?.any (inTable marks) &&
    joinersAllowed [] label

/- A decoded label that mapping would not change. -/
def isCanonical (label : List Char) : Bool :=
  !isAsciiText label &&
    (stripStart punycodeMark label).isNone &&
    mapDomain? label == some label

/- The label that a mapped text spells. -/
def ofText? (text : List Char) : Option (List Char) :=
  match stripStart punycodeMark text with
  | none => if isWellFormed text then some text else none
  | some spelled => do
      let label ← decodePunycode? spelled
      if isCanonical label && isWellFormed label then
        some label
      else
        none

end Label

/- The labels of a domain name, if it is well formed. -/
def domainLabels?
    (text : List Char) : Option (List (List Char)) := do
  let mapped ← mapDomain? text
  let labels ← (splitWhere (· == '.') mapped).mapM
    Label.ofText?
  let directions := labels.map (·.map directionOf)
  if directions.any isDirectional &&
      !directions.all hasClearDirection then
    none
  else
    some labels

end Url

end Blueprint
