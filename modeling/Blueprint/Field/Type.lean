import Blueprint.Source.Phrase

/-
  The types of fields and their spelling in a document.

  Reading a type never fails: a text of no known form is
  kept as an unrecognized type, so that it can be reported
  later.

  Main definitions:
    * `Scalar`, `Scalar.word`, `Scalar.ofWord?`
    * `FieldType`
    * `FieldType.keyword`
    * `FieldType.target?`
    * `FieldType.ofText`

  Main statement:
    * `Scalar.ofWord?_word`
-/

------------------------------------------------------------
-- Scalar Types
------------------------------------------------------------

namespace Blueprint

/- The types that are written as a single word. -/
inductive Scalar where
| text
| number
| money
| email
| date
| dateTime
| boolean
| file
| image
| uuid
| url
| phone
| json
deriving DecidableEq, Repr

namespace Scalar

/- All scalar types, in the order they are advertised. -/
def all : List Scalar :=
  [.text, .number, .money, .email, .date, .dateTime,
   .boolean, .file, .image, .uuid, .url, .phone, .json]

/- The word that a scalar type is written with. -/
def word : Scalar → String
| .text => "text"
| .number => "number"
| .money => "money"
| .email => "email"
| .date => "date"
| .dateTime => "datetime"
| .boolean => "boolean"
| .file => "file"
| .image => "image"
| .uuid => "uuid"
| .url => "url"
| .phone => "phone"
| .json => "json"

def ofWord? (w : String) : Option Scalar :=
  all.find? fun s => s.word == w

/- Every scalar type is read back from its word. -/
theorem ofWord?_word (s : Scalar) :
    ofWord? s.word = some s := by
  cases s <;> decide

end Scalar

end Blueprint

------------------------------------------------------------
-- Field Types
------------------------------------------------------------

namespace Blueprint

/- What a field holds. -/
inductive FieldType where
| scalar (s : Scalar)
| enum (values : List String)
| relationship (entity : String)
| list (entity : String)
| ai (prompt : String)
| computed (expression : String)
| unrecognized (raw : String)
deriving DecidableEq, Repr

namespace FieldType

/- The keyword of a type; an unrecognized type is its own. -/
def keyword : FieldType → String
| .scalar s => s.word
| .enum _ => "enum"
| .relationship _ => "relationship"
| .list _ => "list"
| .ai _ => "ai"
| .computed _ => "computed"
| .unrecognized raw => raw

/- The entity that a relationship or a list refers to. -/
def target? : FieldType → Option String
| .relationship entity => some entity
| .list entity => some entity
| _ => none

end FieldType

end Blueprint

------------------------------------------------------------
-- Reading Types
------------------------------------------------------------

namespace Blueprint

open Text


/- Drop every `ai(` that the text starts with. -/
def dropAiOpenings : List Char → List Char
| 'a' :: 'i' :: '(' :: rest => dropAiOpenings rest
| text => text

namespace FieldType

/- A scalar type: a single known word. -/
def readScalar? (text : List Char) : Option FieldType :=
  (Scalar.ofWord? (String.ofList text)).map .scalar

/- `enum(...)` with the values between top-level commas. -/
def readEnum? (text : List Char) : Option FieldType :=
  (enclosed? "enum(".toList [')'] text).map
    fun inner => .enum (listItems inner)

/- The quoted prompt that alone fills the parentheses. -/
def soleQuoted?
    (text : List Char) : Option (List Char) :=
  match quoted? (trimStart text) with
  | none => none
  | some (body, after) =>
      if trimStart after = [')'] then some body else none

/-
  The prompt of a text that starts with `ai(`: the quoted
  text in the parentheses, or else what is left when the
  delimiters are stripped.
-/
def promptText (text : List Char) : List Char :=
  match (stripStart "ai(".toList text).bind soleQuoted? with
  | some prompt => prompt
  | none =>
      let inner := dropEndWhile (· == ')')
        (dropAiOpenings text)
      trim (trimMatches '"' (trim inner))

/- `ai(...)` with its prompt. -/
def readAi? (text : List Char) : Option FieldType :=
  (stripStart "ai(".toList text).map
    fun _ => .ai (String.ofList (promptText text))

/- `computed(...)` with the trimmed expression. -/
def readComputed? (text : List Char) : Option FieldType :=
  (enclosed? "computed(".toList [')'] text).map
    fun inner => .computed (String.ofList (trim inner))

/- `Entity (relationship)` with an identifier. -/
def readRelationship?
    (text : List Char) : Option FieldType :=
  let name := text.takeWhile isIdentifierChar
  let rest := trimStart (text.dropWhile isIdentifierChar)
  match enclosed? ['('] [')'] rest with
  | none => none
  | some inner =>
      if isIdentifier name &&
          trim inner == "relationship".toList then
        some (.relationship (String.ofList name))
      else
        none

/- `list of Entity` with an identifier. -/
def readListOf? (text : List Char) : Option FieldType := do
  let afterList ← stripStart "list".toList text
  let ofEntity ← skipBlanks? afterList
  let afterOf ← stripStart "of".toList ofEntity
  let name ← skipBlanks? afterOf
  if isIdentifier name then
    some (.list (String.ofList name))
  else
    none

/-
  The type that a text writes, by the first form in this
  order that the text has.
-/
def ofText (text : List Char) : FieldType :=
  let read :=
    readScalar? text
      <|> readEnum? text
      <|> readAi? text
      <|> readComputed? text
      <|> readRelationship? text
      <|> readListOf? text
  read.getD (.unrecognized (String.ofList text))

end FieldType

end Blueprint
