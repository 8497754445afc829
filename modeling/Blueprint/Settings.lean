import Blueprint.Toml.Document

/-
  Settings: how the documents of a folder are checked, read
  from a TOML document beside them.

  Every setting may be left out, and nothing but settings
  may be given.

  Main definitions:
    * `Format`, `Settings`
    * `Settings.ofEntries?`
    * `Settings.ofText?`
-/

------------------------------------------------------------
-- Formats
------------------------------------------------------------

namespace Blueprint

/- What results are written as. -/
inductive Format where
| text
| json
deriving DecidableEq, Repr

namespace Format

/- The format of a name. -/
def ofWord? : String → Option Format
| "text" => some .text
| "json" => some .json
| _ => none

/- Nothing follows the name of a case. -/
def isBare : Toml.Value → Bool
| .array [] => true
| .table _ [] => true
| _ => false

/-
  The format that a value names: as text, or as the only key
  of a table, whose value is empty.
-/
def ofValue? : Toml.Value → Option Format
| .text word => ofWord? word
| .table _ [(word, value)] =>
    if isBare value then ofWord? word else none
| _ => none

end Format

end Blueprint

------------------------------------------------------------
-- Settings
------------------------------------------------------------

namespace Blueprint

/-
  Whether warnings count as failures, the format of results,
  and the codes of the issues to hide.
-/
structure Settings where
  strict : Bool
  format : Option Format
  ignore : List String
deriving DecidableEq, Repr

namespace Settings

/- The settings where none are given. -/
def default : Settings :=
  ⟨false, none, []⟩

/- A truth value. -/
def truth? : Toml.Value → Option Bool
| .truth b => some b
| _ => none

/- A text. -/
def text? : Toml.Value → Option String
| .text s => some s
| _ => none

/- An array of texts. -/
def texts? : Toml.Value → Option (List String)
| .array items => items.mapM text?
| _ => none

/- Set what a key names. -/
def set
    (settings : Settings)
    (key : String)
    (value : Toml.Value) : Option Settings :=
  match key with
  | "strict" =>
      (truth? value).map fun b =>
        { settings with strict := b }
  | "output" =>
      (Format.ofValue? value).map fun f =>
        { settings with format := some f }
  | "ignore" =>
      (texts? value).map fun codes =>
        { settings with ignore := codes }
  | _ => none

/- The settings that entries give. -/
def ofEntries? (entries : Toml.Entries) : Option Settings :=
  entries.foldlM (fun s (key, value) => s.set key value)
    default

/- The settings that a document gives. -/
def ofText? (source : String) : Option Settings :=
  (Toml.readDocument? source).bind ofEntries?

end Settings

end Blueprint
