import Blueprint.Source.Phrase
import Blueprint.Text.Digit

/-
  The modifiers after the type of a field.

  A field line lists modifiers one by one; together they
  amount to one record, in which a later modifier replaces
  an earlier one of the same key.

  Main definitions:
    * `Modifiers`
    * `Modifier`
    * `Modifier.ofItem`
    * `Modifiers.set`
    * `Modifiers.ofText`
-/

------------------------------------------------------------
-- Modifiers
------------------------------------------------------------

namespace Blueprint

/- What a field demands of its values. -/
structure Modifiers where
  required : Bool := false
  unique : Bool := false
  min : Option Int64 := none
  max : Option Int64 := none
  pattern : Option String := none
  default : Option String := none
deriving DecidableEq, Repr

/- A single modifier. -/
inductive Modifier where
| required
| unique
| min (bound : Int64)
| max (bound : Int64)
| pattern (text : String)
| default (text : String)
deriving DecidableEq, Repr

namespace Modifiers

/- Add one modifier to the record. -/
def set
    (ms : Modifiers) : Modifier → Modifiers
| .required => { ms with required := true }
| .unique => { ms with unique := true }
| .min bound => { ms with min := some bound }
| .max bound => { ms with max := some bound }
| .pattern text => { ms with pattern := some text }
| .default text => { ms with default := some text }

end Modifiers

end Blueprint

------------------------------------------------------------
-- Reading Modifiers
------------------------------------------------------------

namespace Blueprint

open Text

/- The bound of `key` on `field`: a signed 64-bit integer. -/
def readBound
    (field key : String)
    (text : List Char) : Except Cause Int64 :=
  match readInt64? text with
  | some bound => .ok bound
  | none =>
      .error (.invalidBound (String.ofList text) key field)

namespace Modifier

/- A modifier written as a word. -/
def ofWord
    (field : String)
    (word : List Char) : Except Cause Modifier :=
  match String.ofList word with
  | "required" => .ok .required
  | "unique" => .ok .unique
  | "" => .error (.emptyModifier field)
  | other => .error (.unknownModifier other field)

/- A modifier written as `key=value`. -/
def ofAssignment
    (field : String)
    (key value : List Char) : Except Cause Modifier :=
  match String.ofList key with
  | "min" => (readBound field "min" value).map .min
  | "max" => (readBound field "max" value).map .max
  | "pattern" =>
      .ok (.pattern (String.ofList (unquoted value)))
  | "default" =>
      .ok (.default (String.ofList (unquoted value)))
  | other => .error (.unknownModifier other field)

/- The modifier that one item of a field line writes. -/
def ofItem
    (field : String)
    (item : List Char) : Except Cause Modifier :=
  match cutAt (· == '=') item with
  | none => ofWord field item
  | some (key, value) =>
      ofAssignment field (trim key) (trim value)

end Modifier

namespace Modifiers

/- The modifiers between the top-level commas of a text. -/
def ofText
    (field : String)
    (text : List Char) : Except Cause Modifiers := do
  let items ← (topLevelItems text).mapM
    (Modifier.ofItem field)
  return items.foldl set {}

end Modifiers

end Blueprint
