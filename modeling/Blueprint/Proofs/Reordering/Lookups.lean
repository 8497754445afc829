import Blueprint.Check.Wiring
import Blueprint.Proofs.FirstDeclaration
import Blueprint.Proofs.Lookup
import Blueprint.Proofs.Reordering.Kinds

/-
  Declarations in another order. When the entities have
  different names, every lookup has the result that it had,
  and so the tables agree.

  Main definition:
    * `Spec.Reordered`

  Main statements:
    * `find?_name_perm`
    * `Spec.Reordered.entity?_eq`
    * `Spec.Reordered.agree_symbolTable`
    * `Spec.Reordered.agree_typeEnv`
-/

------------------------------------------------------------
-- Reordered Specifications
------------------------------------------------------------

namespace Blueprint

/- The declarations of each kind are those of `spec`. -/
structure Spec.Reordered (spec other : Spec) : Prop where
  appName : other.appName = spec.appName
  entities : other.entities.Perm spec.entities
  screens : other.screens.Perm spec.screens
  flows : other.flows.Perm spec.flows
  rules : other.rules.Perm spec.rules
  integrations : other.integrations.Perm spec.integrations
  events : other.events.Perm spec.events

end Blueprint

------------------------------------------------------------
-- Lookups
------------------------------------------------------------

namespace Blueprint

variable {α : Type}
variable {name : α → String}

/- With different names, any item of a name is found. -/
theorem find?_name_eq_some_iff_mem
    {items : List α}
    (hNodup : (items.map name).Nodup)
    {n : String}
    {item : α} :
    (items.find? fun other => name other == n) = some item ↔
      item ∈ items ∧ name item = n := by
  constructor
  · intro h
    refine ⟨List.mem_of_find?_eq_some h, ?_⟩
    simpa using List.find?_some h
  · rintro ⟨hMem, hName⟩
    have hSome := (isSome_find?_name_iff name items n).mpr
      ⟨item, hMem, hName⟩
    rcases Option.isSome_iff_exists.mp hSome with
      ⟨found, hFound⟩
    have hOther : name found = n := by
      simpa using List.find?_some hFound
    rw [hFound, List.inj_on_of_nodup_map hNodup
      (List.mem_of_find?_eq_some hFound) hMem
      (hOther.trans hName.symm)]

/- With different names, the order does not matter. -/
theorem find?_name_perm
    {items others : List α}
    (h : others.Perm items)
    (hNodup : (items.map name).Nodup)
    (n : String) :
    (others.find? fun other => name other == n) =
      items.find? fun other => name other == n := by
  have hOthers : (others.map name).Nodup :=
    (h.map name).nodup_iff.mpr hNodup
  apply Option.ext
  intro item
  rw [find?_name_eq_some_iff_mem hOthers,
    find?_name_eq_some_iff_mem hNodup, h.mem_iff]

end Blueprint

------------------------------------------------------------
-- Tables
------------------------------------------------------------

namespace Blueprint

namespace Spec.Reordered

variable {spec other : Spec}
variable (h : spec.Reordered other)
include h

/- The same names belong to entities. -/
theorem mem_names_iff (n : String) :
    n ∈ other.entities.map Entity.name ↔
      n ∈ spec.entities.map Entity.name :=
  (h.entities.map Entity.name).mem_iff

variable (hNames : (spec.entities.map Entity.name).Nodup)
include hNames

/- The entities still have different names. -/
theorem nodup_names :
    (other.entities.map Entity.name).Nodup :=
  (h.entities.map Entity.name).nodup_iff.mpr hNames

/- The entity of a name is the same. -/
theorem entity?_eq : other.entity? = spec.entity? := by
  funext n
  exact find?_name_perm h.entities hNames n

/- All entities are first ones, here and there. -/
theorem uniqueEntities_perm :
    other.uniqueEntities.Perm spec.uniqueEntities := by
  unfold Spec.uniqueEntities
  rw [firsts_eq_self hNames,
    firsts_eq_self (h.nodup_names hNames)]
  exact h.entities

/- The symbol tables know the same entities and fields. -/
theorem agree_symbolTable :
    (SymbolTable.ofSpec other).Agree
      (SymbolTable.ofSpec spec) where
  entity := by
    intro n
    rw [Bool.eq_iff_iff, hasEntity_ofSpec_iff,
      hasEntity_ofSpec_iff]
    simp only [h.entities.mem_iff]
  field := by
    intro n f
    rw [Bool.eq_iff_iff, hasField_ofSpec_iff,
      hasField_ofSpec_iff, h.entity?_eq hNames]

/- The environments know the same entities and fields. -/
theorem agree_typeEnv :
    (TypeEnv.ofSpec other).Agree (TypeEnv.ofSpec spec) where
  names := by
    unfold TypeEnv.entityNames TypeEnv.ofSpec
    apply sortNames_eq_of_perm
    rw [List.map_map, List.map_map]
    exact map_firsts_perm Entity.name h.entities
  fields := by
    intro n
    rw [fieldsOf?_ofSpec, fieldsOf?_ofSpec,
      h.entity?_eq hNames]

end Spec.Reordered

end Blueprint
