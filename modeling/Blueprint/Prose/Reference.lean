import Blueprint.Text.Blank
import Blueprint.Text.LetterCase
import Blueprint.Text.Words

/-
  References to entities and fields, guessed from free text.

  Main definitions:
    * `capitalized`
    * `Reference`
    * `Reference.ofText`
    * `mentionedEntity?`
-/

------------------------------------------------------------
-- References
------------------------------------------------------------

namespace Blueprint

open Text

/- A text with its first character in uppercase. -/
def capitalized (text : List Char) : String :=
  String.ofList (capitalize text)

/- What a text seems to refer to. -/
structure Reference where
  entity : Option String
  field : Option String
deriving DecidableEq, Repr

namespace Reference

/- A reference to nothing. -/
def empty : Reference where
  entity := none
  field := none

/- A reference without a dot, in trimmed text. -/
def ofWord
    (names : List String)
    (word : List Char) : Reference :=
  if names.contains (capitalized word) then
    ⟨some (capitalized word), none⟩
  else if word.isEmpty then
    .empty
  else
    ⟨none, some (String.ofList word)⟩

/-
  The reference that a text makes, where `names` are the
  names of the entities: `entity.field` with the entity
  capitalized, or a single entity or field. A text without a
  dot is a field when it names no entity.
-/
def ofText
    (names : List String)
    (text : String) : Reference :=
  let subject := trim text.toList
  match cutAt (· == '.') subject with
  | none => ofWord names subject
  | some (entity, field) =>
      let fieldName := trim field
      ⟨some (capitalized (trim entity)),
       if fieldName.isEmpty then none
       else some (String.ofList fieldName)⟩

end Reference

end Blueprint

------------------------------------------------------------
-- Mentioned Entities
------------------------------------------------------------

namespace Blueprint

open Text

/-
  The first word of a text that names an entity once it is
  capitalized.
-/
def mentionedEntity?
    (names : List String)
    (text : String) : Option String :=
  (words text.toList).findSome? fun word =>
    if names.contains (capitalized word) then
      some (capitalized word)
    else
      none

/- A mentioned entity is one of the names. -/
theorem mem_of_mentionedEntity?
    {names : List String}
    {text name : String}
    (h : mentionedEntity? names text = some name) :
    name ∈ names := by
  obtain ⟨word, _, hWord⟩ :=
    List.exists_of_findSome?_eq_some h
  split at hWord
  · rename_i hName
    cases hWord
    simpa using hName
  · cases hWord

end Blueprint
