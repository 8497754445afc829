import Blueprint.Text.Digit
import Blueprint.Toml.Space

/-
  Quoted text of a TOML document, in its four forms: with
  escapes or literal, on one line or on several.

  On several lines a line feed right after the opening
  quotes is not part of the text, every end of a line counts
  as a line feed, and up to two quotes may stand before the
  three that close the text.

  Main definitions:
    * `simpleEscape?`, `scalarOfHex?`
    * `basicBody?`, `literalBody?`
    * `basicLines?`, `literalLines?`
    * `lineQuoted?`, `quoted?`
-/

------------------------------------------------------------
-- Escapes
------------------------------------------------------------

namespace Blueprint

open Text

namespace Toml

/- What a text was read as, and what follows it. -/
abbrev Reading := List Char × List Char

/- Put a character in front of what was read. -/
def Reading.cons
    (c : Char)
    (r : Reading) : Reading :=
  (c :: r.1, r.2)

/- The character that a letter after a backslash means. -/
def simpleEscape? : Char → Option Char
| 'b' => some '\x08'
| 't' => some '\t'
| 'n' => some '\n'
| 'f' => some '\x0c'
| 'r' => some '\r'
| '"' => some '"'
| '\\' => some '\\'
| _ => none

/- The character whose code is written in hexadecimal. -/
def scalarOfHex? (digits : List Char) : Option Char := do
  let code ← readBase? 16 digits
  if code.isValidChar then
    some (Char.ofNat code)
  else
    none

end Toml

end Blueprint

------------------------------------------------------------
-- One Line
------------------------------------------------------------

namespace Blueprint

namespace Toml

/- Text with escapes, after its opening quote. -/
def basicBody? : List Char → Option Reading
| [] => none
| '"' :: rest => some ([], rest)
| '\\' :: 'u' :: a :: b :: c :: d :: rest => do
    let char ← scalarOfHex? [a, b, c, d]
    (basicBody? rest).map (.cons char)
| '\\' :: 'U' :: a :: b :: c :: d :: e :: f :: g :: h ::
    rest => do
    let char ← scalarOfHex? [a, b, c, d, e, f, g, h]
    (basicBody? rest).map (.cons char)
| '\\' :: letter :: rest => do
    let char ← simpleEscape? letter
    (basicBody? rest).map (.cons char)
| c :: rest =>
    if isPlain c && c != '\\' then
      (basicBody? rest).map (.cons c)
    else
      none

/- Literal text, after its opening quote. -/
def literalBody? : List Char → Option Reading
| [] => none
| '\'' :: rest => some ([], rest)
| c :: rest =>
    if isPlain c then
      (literalBody? rest).map (.cons c)
    else
      none

/- Quoted text that stands on one line. -/
def lineQuoted? : List Char → Option Reading
| '"' :: rest => basicBody? rest
| '\'' :: rest => literalBody? rest
| _ => none

end Toml

end Blueprint

------------------------------------------------------------
-- Several Lines
------------------------------------------------------------

namespace Blueprint

namespace Toml

/-
  The end of a text on several lines, after three quotes: of
  more quotes up to two belong to the text.
-/
def closing
    (quote : Char) : List Char → Reading
| c :: d :: rest =>
    if c = quote && d = quote then
      ([quote, quote], rest)
    else if c = quote then
      ([quote], d :: rest)
    else
      ([], c :: d :: rest)
| [c] => if c = quote then ([quote], []) else ([], [c])
| [] => ([], [])

/- Nothing but blanks remains of the line. -/
def isLineOver (text : List Char) : Bool :=
  (newline? (dropBlanks text)).isSome

/-
  Text with escapes on several lines. After a backslash that
  ends its line, blanks and ends of lines are `skipping`.
-/
def basicLinesFrom? (skipping : Bool) :
    List Char → Option Reading
| [] => none
| '"' :: '"' :: '"' :: rest => some (closing '"' rest)
| '\\' :: 'u' :: a :: b :: c :: d :: rest => do
    let char ← scalarOfHex? [a, b, c, d]
    (basicLinesFrom? false rest).map (.cons char)
| '\\' :: 'U' :: a :: b :: c :: d :: e :: f :: g :: h ::
    rest => do
    let char ← scalarOfHex? [a, b, c, d, e, f, g, h]
    (basicLinesFrom? false rest).map (.cons char)
| '\r' :: '\n' :: rest =>
    if skipping then
      basicLinesFrom? true rest
    else
      (basicLinesFrom? false rest).map (.cons '\n')
| '\\' :: letter :: rest =>
    if isLineOver (letter :: rest) then
      basicLinesFrom? true (letter :: rest)
    else do
      let char ← simpleEscape? letter
      (basicLinesFrom? false rest).map (.cons char)
| c :: rest =>
    if skipping && (isBlank c || c == '\n') then
      basicLinesFrom? true rest
    else if (isPlain c || c == '\n') && c != '\\' then
      (basicLinesFrom? false rest).map (.cons c)
    else
      none

/- Literal text on several lines. -/
def literalLinesFrom? : List Char → Option Reading
| [] => none
| '\'' :: '\'' :: '\'' :: rest => some (closing '\'' rest)
| '\r' :: '\n' :: rest =>
    (literalLinesFrom? rest).map (.cons '\n')
| c :: rest =>
    if isPlain c || c == '\n' then
      (literalLinesFrom? rest).map (.cons c)
    else
      none

/- The text after a line feed that directly follows. -/
def dropNewline (text : List Char) : List Char :=
  (newline? text).getD text

/- Text with escapes, after its three opening quotes. -/
def basicLines? (text : List Char) : Option Reading :=
  basicLinesFrom? false (dropNewline text)

/- Literal text, after its three opening quotes. -/
def literalLines? (text : List Char) : Option Reading :=
  literalLinesFrom? (dropNewline text)

/- Quoted text in any of its forms. -/
def quoted? : List Char → Option Reading
| '"' :: '"' :: '"' :: rest => basicLines? rest
| '\'' :: '\'' :: '\'' :: rest => literalLines? rest
| text => lineQuoted? text

end Toml

end Blueprint
