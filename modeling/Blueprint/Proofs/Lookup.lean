import Blueprint.Check.Structure
import Blueprint.Check.Typing

/-
  The checks read a symbol table and a type environment by
  their lookups only, so tables that answer alike give the
  same issues.

  Main definitions:
    * `SymbolTable.Agree`
    * `TypeEnv.Agree`

  Main statements:
    * `entityIssues_congr`, `screenIssues_congr`
    * `typingIssues_congr`
-/

------------------------------------------------------------
-- Symbol Tables
------------------------------------------------------------

namespace Blueprint

/- Two tables know the same entities and fields. -/
structure SymbolTable.Agree
    (table other : SymbolTable) : Prop where
  entity : ∀ n, table.hasEntity n = other.hasEntity n
  field : ∀ n f, table.hasField n f = other.hasField n f

section Tables

variable {table other : SymbolTable}
variable (h : table.Agree other)
include h

/- An entity has the same issues. -/
theorem entityIssues_congr (e : Entity) :
    entityIssues table e = entityIssues other e := by
  unfold entityIssues fieldIssues typeFinding?
  simp only [h.entity]

/- A screen has the same issues. -/
theorem screenIssues_congr (s : Screen) :
    screenIssues table s = screenIssues other s := by
  unfold screenIssues bindingIssues
  simp only [h.entity, h.field]

end Tables

end Blueprint

------------------------------------------------------------
-- Type Environments
------------------------------------------------------------

namespace Blueprint

/- Two environments know the same entities and their fields. -/
structure TypeEnv.Agree (env other : TypeEnv) : Prop where
  names : env.entityNames = other.entityNames
  fields : ∀ n, env.fieldsOf? n = other.fieldsOf? n

section Environments

variable {env other : TypeEnv}
variable (h : env.Agree other)
include h

/- A form has the same issues. -/
theorem formIssues_congr (s : Screen) :
    formIssues env s = formIssues other s := by
  unfold formIssues
  simp only [h.fields]

/- The input of a rule has the same issue. -/
theorem inputIssue?_congr (r : Rule) :
    inputIssue? env r = inputIssue? other r := by
  unfold inputIssue? referenceFinding? TypeEnv.fieldNames?
  simp only [h.names, h.fields]

/- A specification has the same typing issues. -/
theorem typingIssues_congr (spec : Spec) :
    typingIssues spec env = typingIssues spec other := by
  unfold typingIssues
  rw [funext (formIssues_congr h),
    funext (inputIssue?_congr h)]

end Environments

end Blueprint
