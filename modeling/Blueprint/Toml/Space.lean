/-
  What stands between the parts of a TOML document: blanks,
  comments and ends of lines.

  Main definitions:
    * `isPlain`
    * `dropBlanks`
    * `dropSpace`
    * `newline?`, `endOfLine?`
-/

------------------------------------------------------------
-- Characters
------------------------------------------------------------

namespace Blueprint

namespace Toml

/- A character that separates the parts of a line. -/
def isBlank (c : Char) : Bool :=
  c == ' ' || c == '\t'

/-
  A character that may stand in comments and in quotes: a
  tab or any character that is not a control character of
  ASCII.
-/
def isPlain (c : Char) : Bool :=
  c == '\t' || (32 ≤ c.toNat && c.toNat != 127)

/- The text after its leading blanks. -/
def dropBlanks (text : List Char) : List Char :=
  text.dropWhile isBlank

end Toml

end Blueprint

------------------------------------------------------------
-- Lines
------------------------------------------------------------

namespace Blueprint

namespace Toml

/- The text after a line feed, with or without a return. -/
def newline? : List Char → Option (List Char)
| '\n' :: rest => some rest
| '\r' :: '\n' :: rest => some rest
| _ => none

/- The text after a comment, up to the end of its line. -/
def dropComment : List Char → List Char
| '#' :: rest => rest.dropWhile isPlain
| text => text

/-
  The text after the end of a line, which blanks and a
  comment may precede.
-/
def endOfLine? (text : List Char) : Option (List Char) :=
  match dropComment (dropBlanks text) with
  | [] => some []
  | rest => newline? rest

/-
  The text after blanks, comments and ends of lines, read
  from inside or outside a comment.
-/
def dropSpaceFrom (inComment : Bool) :
    List Char → List Char
| [] => []
| '\n' :: rest => dropSpaceFrom false rest
| '\r' :: '\n' :: rest => dropSpaceFrom false rest
| c :: rest =>
    if inComment && isPlain c then
      dropSpaceFrom true rest
    else if !inComment && isBlank c then
      dropSpaceFrom false rest
    else if !inComment && c == '#' then
      dropSpaceFrom true rest
    else
      c :: rest

/- The text after blanks, comments and ends of lines. -/
def dropSpace (text : List Char) : List Char :=
  dropSpaceFrom false text

end Toml

end Blueprint
