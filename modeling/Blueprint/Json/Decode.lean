import Blueprint.Json

/-
  Decoding of JSON values.

  A record is written as an object, whose unknown entries
  are ignored, or as an array of all its fields in order. An
  absent optional field counts as `null`. A tagged value
  names its case in the entry `kind`, or in the first item
  of an array.

  Main definitions:
    * `Json.string?`, `Json.bool?`, `Json.int64?`,
      `Json.uint32?`
    * `Json.list?`
    * `Json.record?`, `Json.field?`, `Json.optionalField?`
    * `Json.tagged?`
-/

------------------------------------------------------------
-- Scalars and Lists
------------------------------------------------------------

namespace Blueprint

namespace Json

/- A string. -/
def string? : Json → Option String
| .string value => some value
| _ => none

/- A truth value. -/
def bool? : Json → Option Bool
| .bool value => some value
| _ => none

/- A signed integer of 64 bits. -/
def int64? : Json → Option Int64
| .integer value =>
    if Int64.minValue.toInt ≤ value ∧
        value ≤ Int64.maxValue.toInt then
      some (Int64.ofInt value)
    else
      none
| _ => none

/- A natural number below 2^32. -/
def nat32? : Json → Option Nat
| .integer value =>
    if 0 ≤ value ∧ value < UInt32.size then
      some value.toNat
    else
      none
| _ => none

/- An unsigned integer of 32 bits. -/
def uint32? (value : Json) : Option UInt32 :=
  value.nat32?.map UInt32.ofNat

/- An array whose items all decode. -/
def list?
    {α : Type}
    (decode : Json → Option α) : Json → Option (List α)
| .array items => items.mapM decode
| _ => none

end Json

end Blueprint

------------------------------------------------------------
-- Records and Tagged Values
------------------------------------------------------------

namespace Blueprint

namespace Json

/- The entries of a record whose fields have these names. -/
def record?
    (names : List String) :
    Json → Option (List (String × Json))
| .object entries => some entries
| .array items =>
    if items.length = names.length then
      some (names.zip items)
    else
      none
| _ => none

/- A field that has to be present. -/
def field?
    {α : Type}
    (entries : List (String × Json))
    (name : String)
    (decode : Json → Option α) : Option α :=
  (entries.lookup name).bind decode

/- A field that may be absent or `null`. -/
def optionalField?
    {α : Type}
    (entries : List (String × Json))
    (name : String)
    (decode : Json → Option α) : Option (Option α) :=
  match entries.lookup name with
  | none => some none
  | some .null => some none
  | some value => (decode value).map some

/- The case of a tagged value, and the value that follows. -/
def tagged? : Json → Option (String × Json)
| .object entries =>
    (field? entries "kind" string?).map
      fun tag => (tag, .object entries)
| .array (.string tag :: items) => some (tag, .array items)
| _ => none

end Json

end Blueprint
