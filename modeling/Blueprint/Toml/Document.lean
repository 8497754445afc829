import Blueprint.Toml.Quoted
import Blueprint.Toml.Table

/-
  TOML documents of text, truth values, arrays and tables.
  Numbers and dates have no place in them: a document that
  holds one is refused.

  Main definitions:
    * `readKey?`
    * `readValue?`
    * `readDocument?`
-/

------------------------------------------------------------
-- Keys
------------------------------------------------------------

namespace Blueprint

namespace Toml

/- A character of a key without quotes. -/
def isKeyChar (c : Char) : Bool :=
  c.isAlphanum || c == '-' || c == '_'

/- One part of a key. -/
def readPart? (text : List Char) : Option Reading :=
  match text.takeWhile isKeyChar with
  | [] => lineQuoted? text
  | part => some (part, text.dropWhile isKeyChar)

/-
  The parts of a key with blanks around them, and what
  follows. No text has more parts than characters.
-/
def readParts? :
    Nat → List Char → Option (List String × List Char)
| 0, _ => none
| limit + 1, text => do
    let (part, rest) ← readPart? (dropBlanks text)
    let name := String.ofList part
    match dropBlanks rest with
    | '.' :: more =>
        let (names, after) ← readParts? limit more
        return (name :: names, after)
    | after => return ([name], after)

/- The key of one or more parts, if there are any. -/
def Key.ofParts? (parts : List String) : Option Key :=
  parts.getLast?.map fun name => ⟨parts.dropLast, name⟩

/- A key at the start of a text. -/
def readKey?
    (text : List Char) : Option (Key × List Char) := do
  let (parts, rest) ← readParts? text.length text
  let key ← Key.ofParts? parts
  return (key, rest)

/- The text after an equals sign and blanks. -/
def afterEquals? : List Char → Option (List Char)
| '=' :: rest => some (dropBlanks rest)
| _ => none

end Toml

end Blueprint

------------------------------------------------------------
-- Values
------------------------------------------------------------

namespace Blueprint

namespace Toml

/- A way to read a value at the start of a text. -/
abbrev ValueReader :=
  List Char → Option (Value × List Char)

/-
  The items of an array, after its opening bracket or after
  a comma. No text has more items than characters.
-/
def readItems?
    (read : ValueReader) :
    Nat → List Char → Option (List Value × List Char)
| 0, _ => none
| limit + 1, text =>
    match dropSpace text with
    | ']' :: rest => some ([], rest)
    | start => do
        let (item, rest) ← read start
        match dropSpace rest with
        | ']' :: after => return ([item], after)
        | ',' :: more =>
            let (items, after) ← readItems? read limit more
            return (item :: items, after)
        | _ => none

/-
  The assignments between braces, after the opening brace or
  after a comma, made to a table one after another.
-/
def readEntries?
    (read : ValueReader) :
    Nat → Entries → List Char →
      Option (Entries × List Char)
| 0, _, _ => none
| limit + 1, entries, text => do
    let (key, afterKey) ← readKey? text
    let start ← afterEquals? afterKey
    let (value, rest) ← read start
    let changed ← assign? key value .braces entries
    match dropBlanks rest with
    | '\x7d' :: after => return (changed, after)
    | ',' :: more => readEntries? read limit changed more
    | _ => none

/- A table in braces, after its opening brace. -/
def readBraces?
    (read : ValueReader)
    (text : List Char) : Option (Entries × List Char) :=
  match dropBlanks text with
  | '\x7d' :: rest => some ([], rest)
  | start => readEntries? read text.length [] start

/-
  A value at the start of a text. Arrays and braces nest at
  most `depth` deep.
-/
def readValue? (depth : Nat) : ValueReader
| 't' :: 'r' :: 'u' :: 'e' :: rest =>
    some (.truth true, rest)
| 'f' :: 'a' :: 'l' :: 's' :: 'e' :: rest =>
    some (.truth false, rest)
| '[' :: rest =>
    match depth with
    | 0 => none
    | inner + 1 =>
        (readItems? (readValue? inner) (rest.length + 1)
          rest).map fun (items, after) => (.array items, after)
| '\x7b' :: rest =>
    match depth with
    | 0 => none
    | inner + 1 =>
        (readBraces? (readValue? inner) rest).map
          fun (entries, after) => (.table .braces entries, after)
| text =>
    (quoted? text).map fun (body, after) =>
      (.text (String.ofList body), after)

end Toml

end Blueprint

------------------------------------------------------------
-- Documents
------------------------------------------------------------

namespace Blueprint

namespace Toml

/- How deep values nest at most. -/
def maxDepth : Nat :=
  80

/- A table and the path of the header that is in force. -/
structure Progress where
  path : List String
  entries : Entries

/- The document without assignments and headers. -/
def Progress.start : Progress :=
  ⟨[], []⟩

/- A header `[key]`, after its bracket. -/
def readHeader?
    (p : Progress)
    (text : List Char) : Option (Progress × List Char) := do
  let (key, rest) ← readKey? text
  match rest with
  | ']' :: after =>
      let entries ← openTable? key p.entries
      return (⟨key.parts, entries⟩, after)
  | _ => none

/- A header `[[key]]`, after its two brackets. -/
def readElement?
    (p : Progress)
    (text : List Char) : Option (Progress × List Char) := do
  let (key, rest) ← readKey? text
  match rest with
  | ']' :: ']' :: after =>
      let entries ← openElement? key p.entries
      return (⟨key.parts, entries⟩, after)
  | _ => none

/- An assignment to the table of the header in force. -/
def readAssignment?
    (p : Progress)
    (text : List Char) : Option (Progress × List Char) := do
  let (key, afterKey) ← readKey? text
  let start ← afterEquals? afterKey
  let (value, rest) ← readValue? maxDepth start
  let entries ← assignAt? p.path key value p.entries
  return (⟨p.path, entries⟩, rest)

/- One header or assignment. -/
def readStatement?
    (p : Progress) :
    List Char → Option (Progress × List Char)
| '[' :: '[' :: rest => readElement? p rest
| '[' :: rest => readHeader? p rest
| text => readAssignment? p text

/-
  Headers and assignments on lines of their own. No text has
  more of them than characters.
-/
def readStatements? :
    Nat → Progress → List Char → Option Progress
| 0, _, _ => none
| limit + 1, p, text =>
    match dropSpace text with
    | [] => some p
    | start => do
        let (next, rest) ← readStatement? p start
        let more ← endOfLine? rest
        readStatements? limit next more

/- The text after a mark of the order of its bytes. -/
def dropByteOrderMark : List Char → List Char
| '\ufeff' :: rest => rest
| text => text

/-
  The entries that a document assigns. It stands for a reader
  of such documents that is no subject of this library. What
  the results on settings use of it is that it refuses every
  specification (`readDocument?_eq_none_of_parse`).
-/
def readDocument? (source : String) : Option Entries := do
  let text := dropByteOrderMark source.toList
  let p ← readStatements? (text.length + 1) .start text
  return p.entries

end Toml

end Blueprint
