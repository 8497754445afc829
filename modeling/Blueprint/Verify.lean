import Blueprint.Check.Boundary
import Blueprint.Check.Conflict
import Blueprint.Check.Structure
import Blueprint.Check.Style
import Blueprint.Check.Typing
import Blueprint.Check.Wiring
import Blueprint.Report

/-
  Verification: all checks of a specification in their fixed
  order. Every check runs, whatever the others find. No
  check breaks off, so verification has no internal fault,
  and what the checks log on their way is left out.

  Main definitions:
    * `Spec.issues`
    * `Spec.verify`
    * `check`
-/

------------------------------------------------------------
-- Verification
------------------------------------------------------------

namespace Blueprint

namespace Spec

/- All issues of a specification. -/
def issues (spec : Spec) : List Issue :=
  let table := SymbolTable.ofSpec spec
  let env := TypeEnv.ofSpec spec
  duplicateIssues spec ++
    structureIssues spec table ++
    typingIssues spec env ++
    conflictIssues spec env ++
    boundaryIssues spec ++
    wiringIssues spec ++
    styleIssues spec

/- What the checks look at in a specification. -/
def summary (spec : Spec) : Summary :=
  let counts := wiringCounts spec
  { entities := spec.entities.length
    screens := spec.screens.length
    flows := spec.flows.length
    rules := spec.rules.length
    integrations := spec.integrations.length
    events := spec.events.length
    relationshipsChecked := counts.relationshipsChecked
    wiringChecks := counts.wiringChecks }

/- The report on a specification. -/
def verify (spec : Spec) : Report :=
  .ofIssues spec.summary spec.issues

end Spec

/- The report on the document `file`, or its faults. -/
def check
    (file source : String) : Except (List Fault) Report :=
  (Spec.parse file source).map Spec.verify

end Blueprint
