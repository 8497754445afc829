/-
  Values and tables of a TOML document.

  A table grows by assignments and by headers. How it came
  about decides what may still be added to it: a table that
  a header named takes no dotted keys, and one that dotted
  keys made takes no header of its own.

  Main definitions:
    * `Origin`, `Value`, `Entries`
    * `changeAt?`
    * `assign?`
    * `openTable?`, `openElement?`
-/

------------------------------------------------------------
-- Values
------------------------------------------------------------

namespace Blueprint

namespace Toml

/-
  How a table came about: in braces, by a header of its own,
  as a parent in another header, or by dotted keys.
-/
inductive Origin where
| braces
| header
| implied
| dotted
deriving DecidableEq, Repr

/-
  A value of a document. An array of tables that headers
  write keeps its latest element, which is still open, apart
  from the earlier ones.
-/
inductive Value where
| text (s : String)
| truth (b : Bool)
| array (items : List Value)
| table (origin : Origin) (entries : List (String × Value))
| tables
    (earlier : List (List (String × Value)))
    (latest : List (String × Value))
deriving Repr

/- The keys of a table with their values, in order. -/
abbrev Entries := List (String × Value)

/- The entries with the value of a key replaced. -/
def replaceValue
    (key : String)
    (value : Value)
    (entries : Entries) : Entries :=
  entries.map fun (k, v) =>
    if k == key then (k, value) else (k, v)

end Toml

end Blueprint

------------------------------------------------------------
-- Changes Below a Table
------------------------------------------------------------

namespace Blueprint

namespace Toml

/-
  A table may be entered on the way to a deeper one. Dotted
  keys enter only tables that no header and no braces made.
-/
def Origin.admits
    (byDots : Bool) : Origin → Bool
| .braces => false
| .header => !byDots
| .implied => true
| .dotted => true

/-
  Change the table at a path. Tables that the path needs and
  that do not exist are made on the way.
-/
def changeAt?
    (byDots : Bool)
    (change : Origin → Entries → Option Entries) :
    List String → Origin → Entries → Option Entries
| [], origin, entries => change origin entries
| key :: path, _, entries =>
    let go := changeAt? byDots change path
    match entries.lookup key with
    | none =>
        let origin := if byDots then .dotted else .implied
        (go origin []).map fun inner =>
          entries ++ [(key, .table origin inner)]
    | some (.table origin inner) =>
        if origin.admits byDots then
          (go origin inner).map fun changed =>
            replaceValue key (.table origin changed) entries
        else
          none
    | some (.tables earlier latest) =>
        (go .header latest).map fun changed =>
          replaceValue key (.tables earlier changed) entries
    | some _ => none

end Toml

end Blueprint

------------------------------------------------------------
-- Assignments and Headers
------------------------------------------------------------

namespace Blueprint

namespace Toml

/-
  A key of one or more parts: the path to a table, and the
  name of an entry in it.
-/
structure Key where
  path : List String
  name : String
deriving DecidableEq, Repr

/- All parts of a key. -/
def Key.parts (key : Key) : List String :=
  key.path ++ [key.name]

/- Add an entry whose name is new. -/
def addEntry?
    (name : String)
    (value : Value)
    (entries : Entries) : Option Entries :=
  if (entries.lookup name).isSome then
    none
  else
    some (entries ++ [(name, value)])

/-
  Assign a value to a key. Only dotted keys add to a table
  that dotted keys made, and they add to no other.
-/
def assign?
    (key : Key)
    (value : Value) :
    Origin → Entries → Option Entries :=
  changeAt? true
    (fun origin entries =>
      if (origin == .dotted) == key.path.isEmpty then
        none
      else
        addEntry? key.name value entries)
    key.path

/- Open the table of a header `[key]`. -/
def openTable?
    (key : Key) : Entries → Option Entries :=
  changeAt? false
    (fun _ entries =>
      match entries.lookup key.name with
      | none => some (entries ++ [(key.name, .table .header [])])
      | some (.table .implied inner) =>
          some (replaceValue key.name (.table .header inner)
            entries)
      | some _ => none)
    key.path .header

/- Open a new element of an array by a header `[[key]]`. -/
def openElement?
    (key : Key) : Entries → Option Entries :=
  changeAt? false
    (fun _ entries =>
      match entries.lookup key.name with
      | none => some (entries ++ [(key.name, .tables [] [])])
      | some (.tables earlier latest) =>
          some (replaceValue key.name
            (.tables (earlier ++ [latest]) []) entries)
      | some _ => none)
    key.path .header

/- Assign a value to a key of the table at a path. -/
def assignAt?
    (path : List String)
    (key : Key)
    (value : Value) : Entries → Option Entries :=
  changeAt? false (assign? key value) path .header

end Toml

end Blueprint
