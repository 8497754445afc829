import Blueprint.CommandLine.Response
import Blueprint.Proofs.Toml.Refusal
import Blueprint.Proofs.Verdict.Errors

/-
  What comes of a command, told by the settings in force and
  by the document.

  Main definitions:
    * `Settings.ofReading?`
    * `Reading.Specifies`, `AgreeBesides`
    * `Spec.Passes`

  Main statements:
    * `Invocation.settings_eq_ok_iff`
    * `AgreeBesides.read_eq`
    * `Invocation.succeeds_check_iff`
    * `Invocation.succeeds_parse_iff`
    * `exitCode_answer`
    * `exitCode_check_iff`, `exitCode_parse_iff`
-/

------------------------------------------------------------
-- Settings in Force
------------------------------------------------------------

namespace Blueprint

/-
  The settings that a reading of their file gives. Where
  there is no file nothing is set.
-/
def Settings.ofReading? : Reading → Option Settings
| .ok source => ofText? source
| .error fault => if fault.isOfFile then none else some .default

/- The reading is the text of a specification. -/
def Reading.Specifies (reading : Reading) : Prop :=
  ∃ file source spec, reading = .ok source ∧
    Spec.parse file source = .ok spec

/- Settings are no specification. -/
theorem not_specifies_of_settings
    {reading : Reading}
    {settings : Settings}
    (h : Settings.ofReading? reading = some settings) :
    ¬reading.Specifies := by
  rintro ⟨file, source, spec, rfl, hParse⟩
  rw [Settings.ofReading?, Settings.ofText?,
    Toml.readDocument?_eq_none_of_parse hParse] at h
  cases h

/-
  Paths read the same on both sides, unless they lead to the
  settings at the given path.
-/
def AgreeBesides
    (path : String)
    (read other : String → Reading) : Prop :=
  ∀ p, other p = read p ∨
    (read p = read path ∧ other p = other path)

theorem AgreeBesides.symm
    {path : String}
    {read other : String → Reading}
    (h : AgreeBesides path read other) :
    AgreeBesides path other read := by
  intro p
  rcases h p with hSame | ⟨hRead, hOther⟩
  · exact .inl hSame.symm
  · exact .inr ⟨hOther, hRead⟩

/-
  A document that is parsed is not the file of settings, so
  it reads the same on both sides.
-/
theorem AgreeBesides.read_eq
    {path file p source : String}
    {read other : String → Reading}
    {spec : Spec}
    (h : AgreeBesides path read other)
    (hSettings : other path = read path ∨
      ¬(read path).Specifies)
    (hRead : read p = .ok source)
    (hParse : Spec.parse file source = .ok spec) :
    other p = .ok source := by
  rcases h p with hSame | ⟨hPath, hOther⟩
  · rw [hSame, hRead]
  -- Here the path leads to the settings, so that a document
  -- is changed only where it is no specification.
  rcases hSettings with hSame | hNot
  · rw [hOther, hSame, ← hPath, hRead]
  · rw [← hPath] at hNot
    exact absurd ⟨file, source, spec, hRead, hParse⟩ hNot

namespace Invocation

variable {i : Invocation}
variable {read : String → Reading}

/- A check is under the settings beside its document. -/
theorem settings_eq_ok_iff
    {strict : Bool}
    (hCheck : i.command = .check strict)
    {settings : Settings} :
    i.settings read = .ok settings ↔
      Settings.ofReading? (read i.settingsPath) =
        some settings := by
  unfold Invocation.settings
  rw [hCheck]
  cases hRead : read i.settingsPath with
  | error fault =>
      cases hFile : fault.isOfFile <;>
        simp [Reading.isOfFile, Settings.ofReading?, hFile]
  | ok source =>
      have hOf : Settings.ofReading? (.ok source) =
          Settings.ofText? source := rfl
      rw [hOf]
      simp only [Reading.isOfFile, if_true]
      unfold settingsOfText
      cases Settings.ofText? source <;> simp

end Invocation

end Blueprint

------------------------------------------------------------
-- Success
------------------------------------------------------------

namespace Blueprint

/-
  A specification passes a check: there is no error, and if
  the check is strict the code of every warning is ignored.
-/
structure Spec.Passes
    (spec : Spec)
    (strict : Bool)
    (ignored : List String) : Prop where
  errors : ErrorFree spec.verify.issues
  warnings : strict = true →
    ∀ j ∈ spec.verify.issues,
      j.severity = .warning → j.code ∈ ignored

/- No warning is shown when the codes of all are ignored. -/
theorem lacks_warning_hide_iff
    {report : Report}
    {ignored : List String} :
    Lacks .warning (report.hide ignored).issues ↔
      ∀ j ∈ report.issues,
        j.severity = .warning → j.code ∈ ignored := by
  have hShown (j : Issue) :
      j ∈ (report.hide ignored).issues ↔
        j ∈ report.issues ∧
          (j.severity = .error ∨ j.code ∉ ignored) := by
    change j ∈ report.issues.filter (Report.isShown ignored) ↔ _
    simp [Report.isShown]
  constructor
  · intro hLacks j hMem hWarning
    by_contra hNot
    exact hLacks j ((hShown j).mpr ⟨hMem, .inr hNot⟩) hWarning
  · intro hIgnored j hMem hWarning
    obtain ⟨hIn, hError | hNot⟩ := (hShown j).mp hMem
    · rw [hWarning] at hError
      cases hError
    · exact hNot (hIgnored j hIn hWarning)

/- The verdict on what is shown is that on the specification. -/
theorem passes_hide_iff
    {spec : Spec}
    {strict : Bool}
    {ignored : List String} :
    Outcome.passes (spec.verify.hide ignored) strict = true ↔
      spec.Passes strict ignored := by
  have hErrors :
      (spec.verify.hide ignored).errorCount = 0 ↔
        ErrorFree spec.verify.issues := by
    rw [Spec.verify, Report.errorCount_hide]
    exact countSeverity_eq_zero_iff
  have hWarnings :
      (spec.verify.hide ignored).warningCount = 0 ↔
        ∀ j ∈ spec.verify.issues,
          j.severity = .warning → j.code ∈ ignored :=
    countSeverity_eq_zero_iff.trans lacks_warning_hide_iff
  unfold Outcome.passes
  rw [Bool.and_eq_true, beq_iff_eq, hErrors]
  constructor
  · rintro ⟨hNone, hStrict⟩
    refine ⟨hNone, ?_⟩
    intro hFlag
    apply hWarnings.mp
    simpa [hFlag] using hStrict
  · rintro ⟨hNone, hIgnored⟩
    refine ⟨hNone, ?_⟩
    cases strict with
    | false => rfl
    | true =>
        rw [hWarnings.mpr (hIgnored rfl)]
        rfl

namespace Invocation

variable {i : Invocation}
variable {read : String → Reading}

/- A document that is parsed is reported on. -/
theorem outcome_check
    {strict : Bool}
    (hCheck : i.command = .check strict)
    {settings : Settings}
    {source : String}
    {spec : Spec}
    (hSettings :
      Settings.ofReading? (read i.settingsPath) = some settings)
    (hRead : read i.file = .ok source)
    (hParse : Spec.parse i.file source = .ok spec) :
    i.outcome read =
      .checked i.file (spec.verify.hide settings.ignore)
        (strict || settings.strict) := by
  have hForce := (settings_eq_ok_iff hCheck).mpr hSettings
  simp only [outcome, hForce, hRead, outcomeOfText, hCheck,
    checkDocument, check, hParse, Except.map]

/-
  A check succeeds when its settings are valid, its document
  is read and parsed, and the specification passes.
-/
theorem succeeds_check_iff
    {strict : Bool}
    (hCheck : i.command = .check strict) :
    (i.outcome read).succeeds = true ↔
      ∃ settings source spec,
        Settings.ofReading? (read i.settingsPath) =
            some settings ∧
          read i.file = .ok source ∧
          Spec.parse i.file source = .ok spec ∧
          spec.Passes (strict || settings.strict)
            settings.ignore := by
  constructor
  · intro h
    cases hForce : i.settings read with
    | error trouble =>
        simp [outcome, hForce, Outcome.succeeds] at h
    | ok settings =>
        have hSettings := (settings_eq_ok_iff hCheck).mp hForce
        cases hRead : read i.file with
        | error fault =>
            simp [outcome, hForce, hRead, Outcome.succeeds] at h
        | ok source =>
            cases hParse : Spec.parse i.file source with
            | error faults =>
                simp [outcome, hForce, hRead, outcomeOfText,
                  hCheck, checkDocument, check, hParse,
                  Except.map, Outcome.succeeds] at h
            | ok spec =>
                rw [outcome_check hCheck hSettings hRead hParse]
                  at h
                exact ⟨settings, source, spec, hSettings, rfl,
                  hParse, passes_hide_iff.mp h⟩
  · rintro ⟨settings, source, spec, hSettings, hRead, hParse,
      hPasses⟩
    rw [outcome_check hCheck hSettings hRead hParse]
    exact passes_hide_iff.mpr hPasses

/- To parse succeeds when the document is read and parsed. -/
theorem succeeds_parse_iff
    (hCommand : i.command = .parse) :
    (i.outcome read).succeeds = true ↔
      ∃ source spec, read i.file = .ok source ∧
        Spec.parse i.file source = .ok spec := by
  have hForce : i.settings read = .ok .default := by
    rw [Invocation.settings, hCommand]
  unfold outcome
  rw [hForce]
  cases hRead : read i.file with
  | error fault => simp [Outcome.succeeds]
  | ok source =>
      cases hParse : Spec.parse i.file source <;>
        simp [outcomeOfText, hCommand, parseDocument, hParse,
          Outcome.succeeds]

end Invocation

end Blueprint

------------------------------------------------------------
-- Exit Codes
------------------------------------------------------------

namespace Blueprint

/- Only success ends with zero. -/
theorem Outcome.exitCode_eq_zero_iff (o : Outcome) :
    o.exitCode = 0 ↔ o.succeeds = true := by
  unfold exitCode
  cases o.succeeds <;> decide

/- Each way to answer ends as the outcome says. -/
theorem Outcome.exitCode_response
    (o : Outcome)
    (format : Format)
    (quiet : Bool) :
    (o.response format quiet).exitCode = o.exitCode := by
  cases quiet
  all_goals
    cases o with
    | trouble t => rfl
    | parsed reading => cases reading <;> rfl
    | faulty faults => rfl
    | checked file report strict => rfl

/- Each way to answer prints nothing when it has to be quiet. -/
theorem Outcome.response_quiet
    (o : Outcome)
    (format : Format) :
    o.response format true = .silent o.exitCode := by
  cases o with
  | trouble t => rfl
  | parsed reading => cases reading <;> rfl
  | faulty faults => rfl
  | checked file report strict => rfl

variable {arguments : List String}
variable {i : Invocation}

/- A request to run is answered by what comes of it. -/
theorem answer_of_run
    (hRun : Request.ofArguments arguments = .ok (.run i))
    (read : String → Reading) :
    answer read arguments =
      .outcome (i.outcome read) (i.answerFormat read) i.quiet := by
  rw [answer, hRun]
  rfl

/- Neither the format nor silence is part of the exit code. -/
theorem exitCode_answer
    (hRun : Request.ofArguments arguments = .ok (.run i))
    (read : String → Reading) :
    (answer read arguments).response.exitCode =
      (i.outcome read).exitCode := by
  rw [answer_of_run hRun]
  exact Outcome.exitCode_response _ _ _

/- A check ends with zero when it succeeds. -/
theorem exitCode_check_iff
    (hRun : Request.ofArguments arguments = .ok (.run i))
    {strict : Bool}
    (hCheck : i.command = .check strict)
    (read : String → Reading) :
    (answer read arguments).response.exitCode = 0 ↔
      ∃ settings source spec,
        Settings.ofReading? (read i.settingsPath) =
            some settings ∧
          read i.file = .ok source ∧
          Spec.parse i.file source = .ok spec ∧
          spec.Passes (strict || settings.strict)
            settings.ignore := by
  rw [exitCode_answer hRun, Outcome.exitCode_eq_zero_iff]
  exact i.succeeds_check_iff hCheck

/- To parse ends with zero when it succeeds. -/
theorem exitCode_parse_iff
    (hRun : Request.ofArguments arguments = .ok (.run i))
    (hParse : i.command = .parse)
    (read : String → Reading) :
    (answer read arguments).response.exitCode = 0 ↔
      ∃ source spec, read i.file = .ok source ∧
        Spec.parse i.file source = .ok spec := by
  rw [exitCode_answer hRun, Outcome.exitCode_eq_zero_iff]
  exact i.succeeds_parse_iff hParse

/- Every run ends with zero or with one. -/
theorem exitCode_run
    (hRun : Request.ofArguments arguments = .ok (.run i))
    (read : String → Reading) :
    (answer read arguments).response.exitCode = 0 ∨
      (answer read arguments).response.exitCode = 1 := by
  rw [exitCode_answer hRun, Outcome.exitCode]
  cases (i.outcome read).succeeds
  · exact .inr rfl
  · exact .inl rfl

end Blueprint

------------------------------------------------------------
-- A Document and Its Settings
------------------------------------------------------------

namespace Blueprint

/- A document whose only entity has no fields. -/
def noteSource : String :=
  "app \"A\"\nentity note\n"

/- What it specifies. -/
def noteSpec : Spec :=
  ⟨"A", [⟨"note", [], ⟨"a.shep", 2⟩⟩], [], [], [], [], []⟩

/- The document with a file of settings beside it. -/
def noteFiles (settings path : String) : Reading :=
  if path = "a.shep" then
    .ok noteSource
  else if path = "./shep.toml" then
    .ok settings
  else
    .error .missing

/- Where only the settings differ the documents are the same. -/
theorem agreeBesides_noteFiles (settings other : String) :
    AgreeBesides "./shep.toml"
      (noteFiles settings) (noteFiles other) := by
  intro p
  unfold noteFiles
  by_cases hPath : p = "./shep.toml"
  · exact .inr (by simp [hPath])
  · exact .inl (by simp [hPath])

end Blueprint
