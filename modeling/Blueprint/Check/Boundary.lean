import Blueprint.Entity
import Blueprint.Issue
import Blueprint.Spec

/-
  Notes on fields whose values look different on the two
  sides of a boundary: between database, server and browser.

  Main definitions:
    * `boundaryFinding?`
    * `boundaryIssues`
-/

------------------------------------------------------------
-- Boundaries
------------------------------------------------------------

namespace Blueprint

/- Enums with more values than this are large. -/
def largeEnumThreshold : Nat :=
  20

/- The note on a field, if its type needs one. -/
def boundaryFinding?
    (entity : String)
    (f : Field) : Option Finding :=
  match f.type with
  | .scalar .money =>
      some (.info (.boundaryMoney entity f.name))
  | .scalar .date =>
      some <| .info <|
        .boundaryTemporal entity f.name f.type.keyword
  | .scalar .dateTime =>
      some <| .info <|
        .boundaryTemporal entity f.name f.type.keyword
  | .ai _ => some (.info (.boundaryAiDerived entity f.name))
  | .enum values =>
      if largeEnumThreshold < values.length then
        some <| .info <|
          .boundaryLargeEnum entity f.name values.length
      else
        none
  | _ => none

/- The notes on the fields of a specification. -/
def boundaryIssues (spec : Spec) : List Issue :=
  spec.entities.flatMap fun e =>
    e.fields.filterMap fun f =>
      (boundaryFinding? e.name f).map (.of · f.location)

end Blueprint
