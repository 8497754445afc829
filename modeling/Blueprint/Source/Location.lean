/-
  Places in a source document. Lines are counted as those of
  the document are, so their numbers have no bound.

  Main definitions:
    * `Location`
    * `Location.render`
-/

------------------------------------------------------------
-- Locations
------------------------------------------------------------

namespace Blueprint

/- A line of a named document, counted from one. -/
structure Location where
  file : String
  line : Nat
deriving DecidableEq, Repr

namespace Location

/- The location as `file:line`. -/
def render : Location → String
| ⟨file, line⟩ => s!"{file}:{line}"

end Location

end Blueprint
