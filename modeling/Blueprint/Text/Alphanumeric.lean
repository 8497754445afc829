import Blueprint.Text.Alphanumeric.Table
import Blueprint.Text.CodePoint

/-
  Letters and numbers, and the identifiers written with the
  ASCII ones.

  Main definitions:
    * `isAlphanumeric`
    * `isWordChar`
    * `isIdentifierStart`, `isIdentifierChar`
    * `isIdentifier`
-/

------------------------------------------------------------
-- Letters and Numbers
------------------------------------------------------------

namespace Blueprint

namespace Text

/- A letter or a number of any script. -/
def isAlphanumeric (c : Char) : Bool :=
  if c.toNat < 128 then
    c.isAlphanum
  else
    inRanges alphanumericRanges c

/- A character that words are made of. -/
def isWordChar (c : Char) : Bool :=
  isAlphanumeric c || c == '_'

end Text

end Blueprint

------------------------------------------------------------
-- Identifiers
------------------------------------------------------------

namespace Blueprint

namespace Text

/- An ASCII letter or an underscore. -/
def isIdentifierStart (c : Char) : Bool :=
  c.isAlpha || c == '_'

/- An ASCII letter, an ASCII digit or an underscore. -/
def isIdentifierChar (c : Char) : Bool :=
  c.isAlphanum || c == '_'

/-
  An identifier is a letter or underscore followed by
  letters, digits and underscores, all of them ASCII.
-/
def isIdentifier : List Char → Bool
| [] => false
| c :: rest =>
    isIdentifierStart c && rest.all isIdentifierChar

/- An identifier is not empty. -/
theorem isIdentifier_ne_nil
    {text : List Char}
    (h : isIdentifier text = true) :
    text ≠ [] := by
  intro hNil
  simp [hNil, isIdentifier] at h

end Text

end Blueprint
