import Blueprint.Proofs.Declared

/-
  The first declaration of a name counts wherever names are
  looked up: in the specification itself, in its symbol
  table and in its type environment.

  Main definitions:
    * `FirstNamed`
    * `Field.HasTag`
    * `LookupsAgree`

  Main statements:
    * `find?_name_eq_some_iff`
    * `filter_firsts_name`, `mem_firsts_iff`
    * `Field.hasTag_iff`
    * `lookupsAgree`
-/

------------------------------------------------------------
-- First of a Name
------------------------------------------------------------

namespace Blueprint

variable {α : Type}

/- The item is the first one of its name in the list. -/
def FirstNamed
    (name : α → String)
    (items : List α)
    (n : String)
    (item : α) : Prop :=
  name item = n ∧
    ∃ before after,
      items = before ++ item :: after ∧
        ∀ other ∈ before, name other ≠ n

/- A search by name finds the first item of the name. -/
theorem find?_name_eq_some_iff
    {name : α → String}
    {items : List α}
    {n : String}
    {item : α} :
    (items.find? fun other => name other == n) = some item ↔
      FirstNamed name items n item := by
  rw [List.find?_eq_some_iff_append]
  simp [FirstNamed]

/-
  Among the first items of all names, those of one name are
  at most one, and it is the one that a search finds. The
  induction carries the items seen so far.
-/
theorem filter_firstsAfter_name
    (name : α → String)
    (seen items : List α)
    (n : String)
    (hSeen : ∀ first ∈ seen, name first ≠ n) :
    (firstsAfter name seen items).filter
        (fun item => name item == n) =
      (items.find? fun item => name item == n).toList := by
  induction items generalizing seen with
  | nil => rfl
  | cons item items ih =>
      by_cases hName : name item = n
      · have hNew : ∀ first ∈ seen,
            name first ≠ name item := by
          rw [hName]
          exact hSeen
        have hLater := (nodup_map_firstsAfter name
          (item :: seen) items).2 item List.mem_cons_self
        have hNone : (firstsAfter name (item :: seen)
            items).filter (fun other => name other == n) =
              [] := by
          rw [List.filter_eq_nil_iff]
          intro other hMem hSame
          apply hLater
          rw [hName, ← beq_iff_eq.mp hSame]
          exact List.mem_map_of_mem hMem
        rw [firstsAfter_cons_of_new hNew,
          List.filter_cons_of_pos (by simpa using hName),
          List.find?_cons_of_pos (by simpa using hName),
          hNone]
        rfl
      · rw [List.find?_cons_of_neg (by simpa using hName)]
        by_cases hOld : ∃ first ∈ seen,
            name first = name item
        · rw [firstsAfter_cons_of_seen hOld, ih seen hSeen]
        · have hNew : ∀ first ∈ seen,
              name first ≠ name item := by
            intro first hMem hSame
            exact hOld ⟨first, hMem, hSame⟩
          rw [firstsAfter_cons_of_new hNew,
            List.filter_cons_of_neg (by simpa using hName)]
          apply ih
          intro first hMem
          rcases List.mem_cons.mp hMem with rfl | hMem
          · exact hName
          · exact hSeen first hMem

/- Among the first items, a search finds all of a name. -/
theorem filter_firsts
    (name : α → String)
    (items : List α)
    (n : String) :
    (firsts name items).filter
        (fun item => name item == n) =
      (items.find? fun item => name item == n).toList := by
  rw [firsts_eq_firstsAfter,
    filter_firstsAfter_name name [] items n (by simp)]

/- Only one of the first items has a name. -/
theorem filter_firsts_name
    {name : α → String}
    {items : List α}
    {n : String}
    {item : α}
    (hFirst : FirstNamed name items n item) :
    (firsts name items).filter
      (fun other => name other == n) = [item] := by
  rw [filter_firsts, find?_name_eq_some_iff.mpr hFirst]
  rfl

/- The first items of a list are the first of their names. -/
theorem mem_firsts_iff
    {name : α → String}
    {items : List α}
    {n : String}
    {item : α} :
    item ∈ firsts name items ∧ name item = n ↔
      FirstNamed name items n item := by
  rw [← find?_name_eq_some_iff, ← Option.mem_toList,
    ← filter_firsts, List.mem_filter, beq_iff_eq]

/- The first entity of a name. -/
theorem Spec.entity?_eq_some_iff
    {spec : Spec}
    {n : String}
    {e : Entity} :
    spec.entity? n = some e ↔
      FirstNamed Entity.name spec.entities n e :=
  find?_name_eq_some_iff

/- The first field of a name. -/
theorem Entity.field?_eq_some_iff
    {e : Entity}
    {n : String}
    {f : Field} :
    e.field? n = some f ↔
      FirstNamed Field.name e.fields n f :=
  find?_name_eq_some_iff

end Blueprint

------------------------------------------------------------
-- Tags of Fields
------------------------------------------------------------

namespace Blueprint

namespace Field

/- The value may be absent when the field is not required. -/
def IsNullable
    (f : Field)
    (nullable : Bool) : Prop :=
  nullable = true ↔ f.modifiers.required = false

/-
  The tag that a field has by its type. Values that are
  derived may always be absent, and a type that was not
  recognized has no tag of its own.
-/
inductive HasTag (f : Field) : TypeTag → Prop
| scalar
    {s : Scalar}
    {nullable : Bool}
    (type : f.type = .scalar s)
    (absent : f.IsNullable nullable) :
    HasTag f (.primitive s.word nullable)
| enum
    {values : List String}
    {nullable : Bool}
    (type : f.type = .enum values)
    (absent : f.IsNullable nullable) :
    HasTag f (.enum values nullable)
| relationship
    {target : String}
    {nullable : Bool}
    (type : f.type = .relationship target)
    (absent : f.IsNullable nullable) :
    HasTag f (.entityRef target nullable)
| list
    {target : String}
    {nullable : Bool}
    (type : f.type = .list target)
    (absent : f.IsNullable nullable) :
    HasTag f (.listRef target nullable)
| ai
    {prompt : String}
    (type : f.type = .ai prompt) :
    HasTag f (.aiDerived prompt true)
| computed
    {expression : String}
    (type : f.type = .computed expression) :
    HasTag f (.primitive "computed" true)
| unrecognized
    {raw : String}
    (type : f.type = .unrecognized raw) :
    HasTag f .unknown

/- Whether a value may be absent is decided by the field. -/
theorem isNullable_iff
    {f : Field}
    {nullable : Bool} :
    f.IsNullable nullable ↔
      nullable = !f.modifiers.required := by
  unfold IsNullable
  cases nullable <;> cases f.modifiers.required <;> decide

/- A field has the tag that is made for it, and no other. -/
theorem hasTag_iff
    {f : Field}
    {tag : TypeTag} :
    f.HasTag tag ↔ tag = TypeTag.ofField f := by
  constructor
  · intro hTag
    unfold TypeTag.ofField
    cases hTag with
    | scalar hType hAbsent
    | enum hType hAbsent
    | relationship hType hAbsent
    | list hType hAbsent =>
        rw [isNullable_iff.mp hAbsent, hType]
    | ai hType
    | computed hType
    | unrecognized hType =>
        rw [hType]
  · rintro rfl
    have hAbsent : f.IsNullable (!f.modifiers.required) :=
      isNullable_iff.mpr rfl
    unfold TypeTag.ofField
    cases hType : f.type with
    | scalar s => exact .scalar hType hAbsent
    | enum values => exact .enum hType hAbsent
    | relationship target =>
        exact .relationship hType hAbsent
    | list target => exact .list hType hAbsent
    | ai prompt => exact .ai hType
    | computed expression => exact .computed hType
    | unrecognized raw => exact .unrecognized hType

end Field

end Blueprint

------------------------------------------------------------
-- Agreement of the Lookups
------------------------------------------------------------

namespace Blueprint

/-
  The three ways to look up an entity `n` and its field `f`
  agree: an entity is known to all or to none of them, so is
  a field, the recorded place is that of the first entity,
  and the tag is that of its first field of the name.
-/
structure LookupsAgree
    (spec : Spec)
    (n f : String) : Prop where
  entity :
    (SymbolTable.ofSpec spec).hasEntity n =
      (spec.entity? n).isSome
  typedEntity :
    (TypeEnv.ofSpec spec).hasEntity n =
      (spec.entity? n).isSome
  place :
    (SymbolTable.ofSpec spec).entities.lookup n =
      (spec.entity? n).map Entity.location
  field :
    (SymbolTable.ofSpec spec).hasField n f = true ↔
      ∃ e, FirstNamed Entity.name spec.entities n e ∧
        ∃ declared ∈ e.fields, declared.name = f
  typedField :
    ((TypeEnv.ofSpec spec).fieldType? n f).isSome =
      (SymbolTable.ofSpec spec).hasField n f
  tag :
    ∀ tag, (TypeEnv.ofSpec spec).fieldType? n f = some tag ↔
      ∃ e, FirstNamed Entity.name spec.entities n e ∧
        ∃ declared,
          FirstNamed Field.name e.fields f declared ∧
            declared.HasTag tag

/- The recorded place is that of the first entity. -/
theorem lookup_entities_ofSpec
    (spec : Spec)
    (n : String) :
    (SymbolTable.ofSpec spec).entities.lookup n =
      (spec.entity? n).map Entity.location :=
  lookup_map_firsts Entity.name Entity.location
    spec.entities n

/- The tags of an entity are those of its first fields. -/
theorem lookup_tagsOf
    (e : Entity)
    (f : String) :
    (TypeEnv.tagsOf e).lookup f =
      (e.field? f).map TypeTag.ofField :=
  lookup_map_firsts Field.name TypeTag.ofField e.fields f

/- The environment tags the first field of the first entity. -/
theorem fieldType?_ofSpec
    (spec : Spec)
    (n f : String) :
    (TypeEnv.ofSpec spec).fieldType? n f =
      ((spec.entity? n).bind (·.field? f)).map
        TypeTag.ofField := by
  unfold TypeEnv.fieldType?
  rw [fieldsOf?_ofSpec]
  cases spec.entity? n with
  | none => rfl
  | some e => exact lookup_tagsOf e f

/- A field of a first entity is found exactly when it exists. -/
theorem isSome_bind_field?_iff
    (spec : Spec)
    (n f : String) :
    ((spec.entity? n).bind (·.field? f)).isSome = true ↔
      ∃ e, spec.entity? n = some e ∧
        ∃ declared ∈ e.fields, declared.name = f := by
  cases spec.entity? n with
  | none => simp
  | some e =>
      rw [Option.bind_some]
      unfold Entity.field?
      rw [isSome_find?_name_iff]
      simp

/- Whatever is looked up, the first declaration counts. -/
theorem lookupsAgree
    (spec : Spec)
    (n f : String) :
    LookupsAgree spec n f where
  entity := by
    unfold SymbolTable.hasEntity
    rw [lookup_entities_ofSpec, Option.isSome_map]
  typedEntity := by
    unfold TypeEnv.hasEntity
    rw [fieldsOf?_ofSpec, Option.isSome_map]
  place := lookup_entities_ofSpec spec n
  field := by
    rw [hasField_ofSpec_iff]
    simp only [Spec.entity?_eq_some_iff]
  typedField := by
    rw [Bool.eq_iff_iff, fieldType?_ofSpec,
      Option.isSome_map, isSome_bind_field?_iff,
      hasField_ofSpec_iff]
  tag := by
    intro tag
    rw [fieldType?_ofSpec]
    simp only [Option.map_eq_some_iff,
      Option.bind_eq_some_iff, Spec.entity?_eq_some_iff,
      Entity.field?_eq_some_iff, Field.hasTag_iff]
    constructor
    · rintro ⟨declared, ⟨e, hEntity, hField⟩, rfl⟩
      exact ⟨e, hEntity, declared, hField, rfl⟩
    · rintro ⟨e, hEntity, declared, hField, rfl⟩
      exact ⟨declared, ⟨e, hEntity, hField⟩, rfl⟩

end Blueprint
