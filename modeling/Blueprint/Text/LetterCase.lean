import Blueprint.Text.CodePoint
import Blueprint.Text.LetterCase.Table

/-
  Letter case: the full Unicode mappings of single
  characters, and the lowercase form of a text, in which a
  capital sigma depends on the letters around it.

  Main definitions:
    * `isLowercase`, `isUppercase`, `isCased`
    * `uppercaseChar`, `lowercaseChar`
    * `capitalize`
    * `lowercase`
    * `asciiLowercase`
-/

------------------------------------------------------------
-- Case of a Character
------------------------------------------------------------

namespace Blueprint

namespace Text

/- A lowercase letter of any script. -/
def isLowercase (c : Char) : Bool :=
  if c.toNat < 128 then
    c.isLower
  else
    inRuns lowercaseRuns c

/- An uppercase letter of any script. -/
def isUppercase (c : Char) : Bool :=
  if c.toNat < 128 then
    c.isUpper
  else
    inRuns uppercaseRuns c

/- A letter that has a case. -/
def isCased (c : Char) : Bool :=
  isLowercase c || isUppercase c ||
    inRanges titlecaseRanges c

/- The ASCII characters that do not end a word. -/
def asciiCaseIgnorable : List Char :=
  ['\x27', '.', ':', '^', '\x60']

/- A character that stands between letters of one word. -/
def isCaseIgnorable (c : Char) : Bool :=
  asciiCaseIgnorable.contains c ||
    inRanges caseIgnorableRanges c

end Text

end Blueprint

------------------------------------------------------------
-- Case Mappings
------------------------------------------------------------

namespace Blueprint

namespace Text

/- The full uppercase form of a character. -/
def uppercaseChar (c : Char) : List Char :=
  if c.toNat < 128 then
    [c.toUpper]
  else
    match uppercaseExpansions.lookup c.toNat with
    | some codes => codes.map Char.ofNat
    | none => [(shift? uppercaseShifts c).getD c]

/-
  The full lowercase form of a character, whatever stands
  around it.
-/
def lowercaseChar (c : Char) : List Char :=
  if c.toNat < 128 then
    [c.toLower]
  else if c = 'İ' then
    ['i', '\u0307']
  else
    [(shift? lowercaseShifts c).getD c]

/- Write the first character in uppercase. -/
def capitalize : List Char → List Char
| [] => []
| c :: rest => uppercaseChar c ++ rest

/- The first character that is not ignorable has a case. -/
def meetsCased (text : List Char) : Bool :=
  (text.dropWhile isCaseIgnorable).head?.any isCased

/-
  A capital sigma between `before`, read backwards, and
  `after` ends its word: a letter precedes it and none
  follows.
-/
def isFinalSigma (before after : List Char) : Bool :=
  meetsCased before && !meetsCased after

/-
  The lowercase form of a text that follows `before`, read
  backwards.
-/
def lowercaseAfter
    (before : List Char) : List Char → List Char
| [] => []
| c :: rest =>
    let lowered :=
      if c = 'Σ' then
        [if isFinalSigma before rest then 'ς' else 'σ']
      else
        lowercaseChar c
    lowered ++ lowercaseAfter (c :: before) rest

/- The lowercase form of a text. -/
def lowercase (text : List Char) : List Char :=
  lowercaseAfter [] text

/- Lower the ASCII letters only. -/
def asciiLowercase (text : List Char) : List Char :=
  text.map Char.toLower

end Text

end Blueprint
