import Blueprint.Issue

/-
  Reports: the issues of a specification with their counts
  and a summary of what was looked at. The counts are those
  of lists in memory, which a machine word can hold.

  Main definitions:
    * `Summary`, `Report`
    * `Report.ofIssues`
    * `Report.hide`
    * `Report.toJson`
-/

------------------------------------------------------------
-- Reports
------------------------------------------------------------

namespace Blueprint

/- How much the checks have looked at. -/
structure Summary where
  entities : Nat
  screens : Nat
  flows : Nat
  rules : Nat
  integrations : Nat
  events : Nat
  relationshipsChecked : Nat
  wiringChecks : Nat
deriving DecidableEq, Repr

namespace Summary

/- Nothing was looked at. -/
def zero : Summary :=
  ⟨0, 0, 0, 0, 0, 0, 0, 0⟩

end Summary

/- Issues with their counts. Only errors prevent success. -/
structure Report where
  success : Bool
  issues : List Issue
  errorCount : Nat
  warningCount : Nat
  summary : Summary
deriving DecidableEq, Repr

/- The number of issues of a severity. -/
def countSeverity
    (severity : Severity)
    (issues : List Issue) : Nat :=
  issues.countP fun i => i.severity == severity

namespace Report

/- The report of a list of issues. -/
def ofIssues
    (summary : Summary)
    (issues : List Issue) : Report where
  success := countSeverity .error issues == 0
  issues := issues
  errorCount := countSeverity .error issues
  warningCount := countSeverity .warning issues
  summary := summary

/- The number of issues that are for information only. -/
def infoCount (r : Report) : Nat :=
  countSeverity .info r.issues

/- The number of issues with a code. -/
def countCode
    (r : Report)
    (code : String) : Nat :=
  r.issues.countP fun i => i.code == code

/- An issue is an error or has none of the codes. -/
def isShown
    (codes : List String)
    (i : Issue) : Bool :=
  i.severity == .error || !codes.contains i.code

/-
  The report without the issues that have one of the codes.
  Errors are never hidden.
-/
def hide
    (r : Report)
    (codes : List String) : Report :=
  ofIssues r.summary (r.issues.filter (isShown codes))

/- Hiding issues does not change the number of errors. -/
theorem errorCount_hide
    (summary : Summary)
    (issues : List Issue)
    (codes : List String) :
    ((ofIssues summary issues).hide codes).errorCount =
      (ofIssues summary issues).errorCount := by
  simp only [hide, ofIssues, countSeverity]
  rw [List.countP_filter]
  apply List.countP_congr
  intro i _
  simp [isShown]
  intro h
  exact Or.inl h

end Report

end Blueprint

------------------------------------------------------------
-- Reports as JSON
------------------------------------------------------------

namespace Blueprint

namespace Summary

def toJson (s : Summary) : Json :=
  .object
    [("entities", .ofNat s.entities),
     ("screens", .ofNat s.screens),
     ("flows", .ofNat s.flows),
     ("rules", .ofNat s.rules),
     ("integrations", .ofNat s.integrations),
     ("events", .ofNat s.events),
     ("relationships_checked", .ofNat s.relationshipsChecked),
     ("wiring_checks", .ofNat s.wiringChecks)]

end Summary

namespace Report

def toJson (r : Report) : Json :=
  .object
    [("success", .bool r.success),
     ("issues", .ofList Issue.toJson r.issues),
     ("error_count", .ofNat r.errorCount),
     ("warning_count", .ofNat r.warningCount),
     ("summary", r.summary.toJson)]

end Report

end Blueprint
