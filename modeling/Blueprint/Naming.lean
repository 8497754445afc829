import Blueprint.Text.Alphanumeric
import Blueprint.Text.LetterCase
import Blueprint.Text.Words

/-
  Naming conventions.

  Main definitions:
    * `isPascalCase`, `isLowerCamelCase`, `isSnakeCase`
    * `toPascalCase`
    * `wordCount`
    * `isSensitive`
-/

------------------------------------------------------------
-- Conventions
------------------------------------------------------------

namespace Blueprint

open Text

/- A lowercase ASCII letter or a digit. -/
def isLowerOrDigit (c : Char) : Bool :=
  c.isLower || c.isDigit

/- An uppercase letter, then letters and digits, all ASCII. -/
def isPascalCase : List Char → Bool
| [] => false
| c :: rest => c.isUpper && rest.all Char.isAlphanum

/- A lowercase letter, then letters and digits, all ASCII. -/
def isLowerCamelCase : List Char → Bool
| [] => false
| c :: rest => c.isLower && rest.all Char.isAlphanum

/-
  Groups of lowercase letters and digits with single
  underscores between them, starting with a letter.
-/
def isSnakeCase (text : List Char) : Bool :=
  text.head?.any Char.isLower &&
    (splitWhere (· == '_') text).all fun group =>
      !group.isEmpty && group.all isLowerOrDigit

/-
  The words of a name, each with its first character in
  uppercase, written together.
-/
def toPascalCase (name : List Char) : List Char :=
  let pieces := splitWhere (fun c => !isAlphanumeric c) name
  pieces.flatMap capitalize

end Blueprint

------------------------------------------------------------
-- Words of a Name
------------------------------------------------------------

namespace Blueprint

open Text

/-
  A word starts at a letter or number that follows neither a
  letter nor a number, or that turns from lowercase to
  uppercase.
-/
def startsWord
    (previous : Option Char)
    (c : Char) : Bool :=
  isAlphanumeric c &&
    match previous with
    | none => true
    | some p =>
        !isAlphanumeric p || (isLowercase p && isUppercase c)

/- The number of words that start after `previous`. -/
def wordCountAfter
    (previous : Option Char) : List Char → Nat
| [] => 0
| c :: rest =>
    (if startsWord previous c then 1 else 0) +
      wordCountAfter (some c) rest

/- The number of words in a name. -/
def wordCount (name : List Char) : Nat :=
  wordCountAfter none name

end Blueprint

------------------------------------------------------------
-- Credentials
------------------------------------------------------------

namespace Blueprint

open Text

/- The parts of a name that suggest a credential. -/
def sensitiveParts : List (List Char) :=
  ["password".toList, "passwd".toList, "secret".toList,
   "token".toList, "apikey".toList, "api_key".toList]

/- A name suggests a credential, whatever its ASCII case. -/
def isSensitive (name : List Char) : Bool :=
  sensitiveParts.any fun part =>
    (cutAround part (asciiLowercase name)).isSome

end Blueprint
