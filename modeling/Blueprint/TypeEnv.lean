import Blueprint.Declared
import Blueprint.Spec

/-
  The types of the fields that a specification declares, as
  far as the checks tell them apart.

  Main definitions:
    * `TypeTag`
    * `TypeTag.ofField`
    * `TypeEnv`, `TypeEnv.ofSpec`
    * `TypeEnv.fieldType?`, `TypeEnv.fieldsOf?`
-/

------------------------------------------------------------
-- Type Tags
------------------------------------------------------------

namespace Blueprint

/-
  What a field holds. All tags but the unknown one tell
  whether the value may be absent.
-/
inductive TypeTag where
| primitive (name : String) (nullable : Bool)
| enum (values : List String) (nullable : Bool)
| entityRef (target : String) (nullable : Bool)
| listRef (target : String) (nullable : Bool)
| aiDerived (prompt : String) (nullable : Bool)
| unknown
deriving DecidableEq, Repr

namespace TypeTag

/- A list of entities. -/
def isList : TypeTag → Bool
| .listRef _ _ => true
| _ => false

/- A value that an AI derives. -/
def isAiDerived : TypeTag → Bool
| .aiDerived _ _ => true
| _ => false

/-
  The tag of a field. A field that is not required may be
  absent, and so may every derived value.
-/
def ofField (f : Field) : TypeTag :=
  let nullable := !f.modifiers.required
  match f.type with
  | .scalar s => .primitive s.word nullable
  | .enum values => .enum values nullable
  | .relationship entity => .entityRef entity nullable
  | .list entity => .listRef entity nullable
  | .ai prompt => .aiDerived prompt true
  | .computed _ => .primitive "computed" true
  | .unrecognized _ => .unknown

end TypeTag

end Blueprint

------------------------------------------------------------
-- Type Environments
------------------------------------------------------------

namespace Blueprint

/- The tags of the fields of each entity. -/
structure TypeEnv where
  entities : List (String × List (String × TypeTag))
deriving DecidableEq, Repr

namespace TypeEnv

/- The tags of the fields of an entity, first fields first. -/
def tagsOf (e : Entity) : List (String × TypeTag) :=
  (firsts Field.name e.fields).map fun f =>
    (f.name, TypeTag.ofField f)

/- The types that a specification declares. -/
def ofSpec (spec : Spec) : TypeEnv where
  entities :=
    (firsts Entity.name spec.entities).map fun e =>
      (e.name, tagsOf e)

/- The fields of an entity with their tags. -/
def fieldsOf?
    (env : TypeEnv)
    (entity : String) : Option (List (String × TypeTag)) :=
  env.entities.lookup entity

def hasEntity
    (env : TypeEnv)
    (name : String) : Bool :=
  (env.fieldsOf? name).isSome

/- The tag of a field. -/
def fieldType?
    (env : TypeEnv)
    (entity field : String) : Option TypeTag :=
  (env.fieldsOf? entity).bind (·.lookup field)

/- The names of the fields of an entity, in order. -/
def fieldNames?
    (env : TypeEnv)
    (entity : String) : Option (List String) :=
  (env.fieldsOf? entity).map fun fields =>
    sortNames (fields.map Prod.fst)

/- The names of the entities, in order. -/
def entityNames (env : TypeEnv) : List String :=
  sortNames (env.entities.map Prod.fst)

end TypeEnv

end Blueprint
