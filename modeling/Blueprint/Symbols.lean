import Blueprint.Declared
import Blueprint.Issue
import Blueprint.Spec

/-
  The names that a specification declares, and the issues
  with names that are declared twice.

  Main definitions:
    * `SymbolTable`
    * `SymbolTable.hasEntity`, `SymbolTable.hasField`
    * `SymbolTable.ofSpec`
    * `duplicateIssues`
-/

------------------------------------------------------------
-- Symbol Tables
------------------------------------------------------------

namespace Blueprint

/-
  The declared names of each kind, with the place of their
  first declaration, and the field names of each entity.
-/
structure SymbolTable where
  entities : List (String × Location)
  screens : List (String × Location)
  flows : List (String × Location)
  integrations : List (String × Location)
  entityFields : List (String × List String)
deriving DecidableEq, Repr

namespace SymbolTable

def empty : SymbolTable :=
  ⟨[], [], [], [], []⟩

def hasEntity
    (table : SymbolTable)
    (name : String) : Bool :=
  (table.entities.lookup name).isSome

/- The declared entity has a field of the name. -/
def hasField
    (table : SymbolTable)
    (entity field : String) : Bool :=
  match table.entityFields.lookup entity with
  | none => false
  | some names => names.contains field

/- The names of the declarations and their first places. -/
def places
    {α : Type}
    (name : α → String)
    (location : α → Location)
    (declarations : List α) : List (String × Location) :=
  (firsts name declarations).map fun d => (name d, location d)

/- The different field names of an entity, in order. -/
def fieldNames (e : Entity) : List String :=
  sortNames ((firsts Field.name e.fields).map Field.name)

/- The names that a specification declares. -/
def ofSpec (spec : Spec) : SymbolTable where
  entities := places Entity.name Entity.location spec.entities
  screens := places Screen.name Screen.location spec.screens
  flows := places Flow.name Flow.location spec.flows
  integrations :=
    places Integration.name Integration.location
      spec.integrations
  entityFields :=
    (firsts Entity.name spec.entities).map fun e =>
      (e.name, fieldNames e)

end SymbolTable

end Blueprint

------------------------------------------------------------
-- Names Declared Twice
------------------------------------------------------------

namespace Blueprint

/-
  The issues of the repeated names in a list: each stands at
  the repetition and tells the line of the first occurrence.
-/
def repeatIssues
    {α : Type}
    (name : α → String)
    (location : α → Location)
    (matter : String → Nat → Matter)
    (declarations : List α) : List Issue :=
  (withFirst name declarations).flatMap fun (d, first) =>
    match first with
    | none => []
    | some f =>
        [.of (.error (matter (name d) (location f).line))
          (location d)]

/- The issues of the repeated field names of an entity. -/
def duplicateFieldIssues (e : Entity) : List Issue :=
  repeatIssues Field.name Field.location
    (fun field line => .duplicateField field e.name line)
    e.fields

/-
  The issues of repeated entities. The fields of every
  declaration are looked at, also those of a repeated one.
-/
def duplicateEntityIssues
    (entities : List Entity) : List Issue :=
  (withFirst Entity.name entities).flatMap fun (e, first) =>
    duplicateFieldIssues e ++
      match first with
      | none => []
      | some f =>
          [.of
            (.error (.duplicateEntity e.name f.location.line))
            e.location]

/- The issues of names declared twice. -/
def duplicateIssues (spec : Spec) : List Issue :=
  duplicateEntityIssues spec.entities ++
    repeatIssues Screen.name Screen.location
      .duplicateScreen spec.screens ++
    repeatIssues Flow.name Flow.location
      .duplicateFlow spec.flows

end Blueprint
