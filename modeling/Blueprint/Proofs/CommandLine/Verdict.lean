import Blueprint.Proofs.CommandLine.Arguments
import Blueprint.Proofs.CommandLine.Outcome

/-
  The verdict of a check and the issues that it shows.
  Ignored codes are hidden unless they are errors, so
  ignoring more of them hides no error and fails no check
  that passed.

  Main definitions:
    * `Report.Shows`
    * `CheckAnswered`

  Main statements:
    * `Report.shows_hide`
    * `Spec.Passes.mono`
    * `check_answered`
-/

------------------------------------------------------------
-- Issues Shown
------------------------------------------------------------

namespace Blueprint

namespace Report

/-
  What is shown of a report when some codes are ignored: the
  errors and the issues of other codes, in their order. The
  warnings and notes are counted anew.
-/
structure Shows
    (ignored : List String)
    (full shown : Report) : Prop where
  issues : shown.issues =
    full.issues.filter fun j =>
      decide (j.severity = .error ∨ j.code ∉ ignored)
  errors :
    (shown.issues.filter fun j => j.severity == .error) =
      full.issues.filter fun j => j.severity == .error
  success : shown.success = full.success
  errorCount : shown.errorCount = full.errorCount
  warningCount :
    shown.warningCount = countSeverity .warning shown.issues
  infoCount :
    shown.infoCount = countSeverity .info shown.issues
  summary : shown.summary = full.summary

/- Hiding the ignored codes shows what is to be shown. -/
theorem shows_hide
    (summary : Summary)
    (issues : List Issue)
    (ignored : List String) :
    Shows ignored (ofIssues summary issues)
      ((ofIssues summary issues).hide ignored) := by
  have hCount := errorCount_hide summary issues ignored
  constructor
  case issues =>
    apply List.filter_congr
    intro j _
    simp only [isShown, Bool.decide_or, decide_not,
      List.contains_eq_mem]
    rfl
  case errors =>
    change (issues.filter (isShown ignored)).filter _ = _
    rw [List.filter_filter]
    apply List.filter_congr
    intro j _
    unfold isShown
    cases j.severity == .error <;> simp
  case success =>
    change
      (((ofIssues summary issues).hide ignored).errorCount == 0)
        = ((ofIssues summary issues).errorCount == 0)
    rw [hCount]
  case errorCount => exact hCount
  case warningCount => rfl
  case infoCount => rfl
  case summary => rfl

end Report

/- A larger list of ignored codes fails nothing that passed. -/
theorem Spec.Passes.mono
    {spec : Spec}
    {strict : Bool}
    {ignored more : List String}
    (h : spec.Passes strict ignored)
    (hMore : ignored ⊆ more) :
    spec.Passes strict more where
  errors := h.errors
  warnings := fun hStrict j hMem hWarning =>
    hMore (h.warnings hStrict j hMem hWarning)

end Blueprint

------------------------------------------------------------
-- Checks
------------------------------------------------------------

namespace Blueprint

/-
  How a check is answered, strictly or not: it passes or it
  fails, it passes exactly when its settings are valid and
  its document specifies what passes, and then it shows the
  report without what the settings ignore.
-/
structure CheckAnswered
    (read : String → Reading)
    (i : Invocation)
    (strict : Bool)
    (response : Response) : Prop where
  ends : response.exitCode = 0 ∨ response.exitCode = 1
  passes : response.exitCode = 0 ↔
    ∃ settings source spec,
      Settings.ofReading? (read i.settingsPath) =
          some settings ∧
        read i.file = .ok source ∧
        Spec.parse i.file source = .ok spec ∧
        spec.Passes (strict || settings.strict) settings.ignore
  shows : ∀ settings source spec,
    Settings.ofReading? (read i.settingsPath) = some settings →
      read i.file = .ok source →
      Spec.parse i.file source = .ok spec →
      ∃ shown, spec.verify.Shows settings.ignore shown ∧
        response.errorOutput = "" ∧
        response.output =
          if i.quiet then "" else
            shown.text i.file (i.answerFormat read)

variable {arguments : List String}
variable {i : Invocation}
variable {strict : Bool}

/- A document that is parsed has its report shown. -/
theorem shows_of_parse
    (hRun : Request.ofArguments arguments = .ok (.run i))
    (hCommand : i.command = .check strict)
    {read : String → Reading}
    {settings : Settings}
    {source : String}
    {spec : Spec}
    (hSettings :
      Settings.ofReading? (read i.settingsPath) = some settings)
    (hRead : read i.file = .ok source)
    (hParse : Spec.parse i.file source = .ok spec) :
    ∃ shown, spec.verify.Shows settings.ignore shown ∧
      (answer read arguments).response.errorOutput = "" ∧
      (answer read arguments).response.output =
        if i.quiet then "" else
          shown.text i.file (i.answerFormat read) := by
  refine ⟨_, Report.shows_hide spec.summary spec.issues _, ?_⟩
  rw [answer_of_run hRun,
    i.outcome_check hCommand hSettings hRead hParse]
  unfold Answer.response
  cases i.quiet <;> exact ⟨rfl, rfl⟩

/- To ignore more codes fails no check that passed. -/
theorem exitCode_check_mono
    (hRun : Request.ofArguments arguments = .ok (.run i))
    (hCommand : i.command = .check strict)
    {read other : String → Reading}
    {settings more : Settings}
    (hSettings :
      Settings.ofReading? (read i.settingsPath) = some settings)
    (hMore :
      Settings.ofReading? (other i.settingsPath) = some more)
    (hStrict : more.strict = settings.strict)
    (hIgnore : settings.ignore ⊆ more.ignore)
    (hAgree : AgreeBesides i.settingsPath read other)
    (h : (answer read arguments).response.exitCode = 0) :
    (answer other arguments).response.exitCode = 0 := by
  obtain ⟨found, source, spec, hFound, hRead, hParse, hPasses⟩ :=
    (exitCode_check_iff hRun hCommand read).mp h
  cases hSettings.symm.trans hFound
  have hNot := not_specifies_of_settings hSettings
  have hOther := hAgree.read_eq (.inr hNot) hRead hParse
  apply (exitCode_check_iff hRun hCommand other).mpr
  refine ⟨more, source, spec, hMore, hOther, hParse, ?_⟩
  rw [hStrict]
  exact hPasses.mono hIgnore

/- A strict check of a document with a warning. -/
def noteArguments : List String :=
  ["check", "--strict", "a.shep"]

def noteCheck : Invocation :=
  ⟨.check true, "a.shep", none, false⟩

/- Settings that ignore the only warning. -/
def ignoringOne : String :=
  "ignore = [\"entity.no-fields\"]\n"

/- Settings that ignore the code of a note as well. -/
def ignoringTwo : String :=
  "ignore = [\"entity.no-fields\", \"lint.entity-name\"]\n"

end Blueprint
