import Blueprint.Proofs.CommandLine.Arguments
import Blueprint.Proofs.CommandLine.Outcome

/-
  How an answer is written has no part in the verdict: the
  exit code is the same for every format and with or without
  silence, and a silent answer prints nothing.

  Main definitions:
    * `Settings.plain`
    * `Restyled`

  Main statements:
    * `exitCode_restyled`
    * `silent_response`
    * `rendering_harmless`
-/

------------------------------------------------------------
-- Settings in Another Style
------------------------------------------------------------

namespace Blueprint

/- The settings without a format. -/
def Settings.plain (settings : Settings) : Settings :=
  { settings with format := none }

/-
  Two readings of the file of settings that differ in nothing
  but the format: both give settings that are otherwise the
  same, or neither gives settings. What is changed in this
  way is no specification.
-/
inductive Restyled : Reading → Reading → Prop
| same (reading : Reading) : Restyled reading reading
| format
    {reading other : Reading}
    {settings styled : Settings}
    (hSettings : Settings.ofReading? reading = some settings)
    (hStyled : Settings.ofReading? other = some styled)
    (hPlain : styled.plain = settings.plain) :
    Restyled reading other
| invalid
    {reading other : Reading}
    (hReading : Settings.ofReading? reading = none)
    (hOther : Settings.ofReading? other = none)
    (hNot : ¬reading.Specifies ∧ ¬other.Specifies) :
    Restyled reading other

namespace Restyled

variable {reading other : Reading}

theorem symm (h : Restyled reading other) :
    Restyled other reading := by
  cases h with
  | same => exact .same _
  | format hSettings hStyled hPlain =>
      exact .format hStyled hSettings hPlain.symm
  | invalid hReading hOther hNot =>
      exact .invalid hOther hReading hNot.symm

/- Settings in another style are as strict and ignore the same. -/
theorem exists_settings
    (h : Restyled reading other)
    {settings : Settings}
    (hForce : Settings.ofReading? reading = some settings) :
    ∃ styled, Settings.ofReading? other = some styled ∧
      styled.strict = settings.strict ∧
      styled.ignore = settings.ignore := by
  cases h with
  | same => exact ⟨settings, hForce, rfl, rfl⟩
  | @format _ _ styled hSettings hStyled hPlain =>
      cases hSettings.symm.trans hForce
      obtain ⟨hStrict, _, hIgnore⟩ := Settings.mk.inj hPlain
      exact ⟨styled, hStyled, hStrict, hIgnore⟩
  | invalid hReading =>
      rw [hReading] at hForce
      cases hForce

/- What is changed is no specification. -/
theorem eq_or_not_specifies (h : Restyled reading other) :
    other = reading ∨ ¬reading.Specifies := by
  cases h with
  | same => exact .inl rfl
  | format hSettings =>
      exact .inr (not_specifies_of_settings hSettings)
  | invalid _ _ hNot => exact .inr hNot.1

end Restyled

end Blueprint

------------------------------------------------------------
-- Two Runs
------------------------------------------------------------

namespace Blueprint

variable {arguments others : List String}
variable {i j : Invocation}

/- The settings stand beside the document. -/
theorem Invocation.settingsPath_eq_of_file_eq
    (h : i.file = j.file) :
    i.settingsPath = j.settingsPath := by
  rw [settingsPath, settingsPath, h]

/- A run that ends with zero does so in another style. -/
theorem exitCode_zero_of_restyled
    (hRun : Request.ofArguments arguments = .ok (.run i))
    (hOther : Request.ofArguments others = .ok (.run j))
    (hCommand : i.command = j.command)
    (hFile : i.file = j.file)
    {read changed : String → Reading}
    (hSettings :
      Restyled (read i.settingsPath) (changed i.settingsPath))
    (hAgree : AgreeBesides i.settingsPath read changed)
    (h : (answer read arguments).response.exitCode = 0) :
    (answer changed others).response.exitCode = 0 := by
  have hPath := Invocation.settingsPath_eq_of_file_eq hFile
  cases hKind : i.command with
  | parse =>
      obtain ⟨source, spec, hRead, hParse⟩ :=
        (exitCode_parse_iff hRun hKind read).mp h
      have hSame :=
        hAgree.read_eq hSettings.eq_or_not_specifies hRead hParse
      rw [hFile] at hSame hParse
      exact (exitCode_parse_iff hOther (hCommand ▸ hKind)
        changed).mpr ⟨source, spec, hSame, hParse⟩
  | check strict =>
      obtain ⟨settings, source, spec, hForce, hRead, hParse,
        hPasses⟩ := (exitCode_check_iff hRun hKind read).mp h
      have hSame :=
        hAgree.read_eq hSettings.eq_or_not_specifies hRead hParse
      obtain ⟨styled, hStyled, hStrict, hIgnore⟩ :=
        hSettings.exists_settings hForce
      rw [hPath] at hStyled
      rw [hFile] at hSame hParse
      rw [← hStrict, ← hIgnore] at hPasses
      exact (exitCode_check_iff hOther (hCommand ▸ hKind)
        changed).mpr
          ⟨styled, source, spec, hStyled, hSame, hParse, hPasses⟩

/- The exit code is the same in every style. -/
theorem exitCode_restyled
    (hRun : Request.ofArguments arguments = .ok (.run i))
    (hOther : Request.ofArguments others = .ok (.run j))
    (hCommand : i.command = j.command)
    (hFile : i.file = j.file)
    {read changed : String → Reading}
    (hSettings :
      Restyled (read i.settingsPath) (changed i.settingsPath))
    (hAgree : AgreeBesides i.settingsPath read changed) :
    (answer changed others).response.exitCode =
      (answer read arguments).response.exitCode := by
  have hZero :
      (answer read arguments).response.exitCode = 0 ↔
        (answer changed others).response.exitCode = 0 := by
    constructor
    · exact exitCode_zero_of_restyled hRun hOther hCommand hFile
        hSettings hAgree
    · rw [Invocation.settingsPath_eq_of_file_eq hFile]
        at hSettings hAgree
      exact exitCode_zero_of_restyled hOther hRun hCommand.symm
        hFile.symm hSettings.symm hAgree.symm
  -- There are only two codes, so zero decides both of them.
  rcases exitCode_run hRun read with hCode | hCode
  · rw [hCode, hZero.mp hCode]
  · rcases exitCode_run hOther changed with hNew | hNew
    · rw [hZero.mpr hNew] at hCode
      cases hCode
    · rw [hCode, hNew]

/- A silent answer prints nothing, whatever comes of the run. -/
theorem silent_response
    (hRun : Request.ofArguments arguments = .ok (.run i))
    (hQuiet : "--quiet" ∈ flagWords arguments)
    (read : String → Reading) :
    (answer read arguments).response.output = "" ∧
      (answer read arguments).response.errorOutput = "" := by
  have hSilent : i.quiet = true := by
    rw [(flags_of_ofArguments hRun).2]
    exact List.contains_iff_mem.mpr hQuiet
  rw [answer_of_run hRun, hSilent, Answer.response,
    Outcome.response_quiet]
  exact ⟨rfl, rfl⟩

/- What passes a check can be parsed. -/
theorem exitCode_parse_of_check
    (hRun : Request.ofArguments arguments = .ok (.run i))
    (hOther : Request.ofArguments others = .ok (.run j))
    (hCheck : i.command ≠ .parse)
    (hParse : j.command = .parse)
    (hFile : i.file = j.file)
    {read : String → Reading}
    (h : (answer read arguments).response.exitCode = 0) :
    (answer read others).response.exitCode = 0 := by
  cases hKind : i.command with
  | parse => exact absurd hKind hCheck
  | check strict =>
      obtain ⟨_, source, spec, _, hRead, hSpec, _⟩ :=
        (exitCode_check_iff hRun hKind read).mp h
      rw [hFile] at hRead hSpec
      exact (exitCode_parse_iff hOther hParse read).mpr
        ⟨source, spec, hRead, hSpec⟩

/-
  The answers to two requests to run, where the flags of
  format and silence differ, or the format in the settings:
  they end with the same code. A request with the flag of
  silence prints nothing. And where one of them checks a
  document and the other parses it, the second passes
  whenever the first does.
-/
theorem rendering_harmless
    (hRun : Request.ofArguments arguments = .ok (.run i))
    (hOther : Request.ofArguments others = .ok (.run j)) :
    (∀ read changed,
      plainArguments arguments = plainArguments others →
      Restyled (read i.settingsPath) (changed i.settingsPath) →
      AgreeBesides i.settingsPath read changed →
      (answer changed others).response.exitCode =
        (answer read arguments).response.exitCode) ∧
    ("--quiet" ∈ flagWords arguments → ∀ read,
      (answer read arguments).response.output = "" ∧
        (answer read arguments).response.errorOutput = "") ∧
    (i.command ≠ .parse → j.command = .parse →
      i.file = j.file → ∀ read,
      (answer read arguments).response.exitCode = 0 →
        (answer read others).response.exitCode = 0) := by
  refine ⟨?_, ?_, ?_⟩
  · intro read changed hPlain hSettings hAgree
    obtain ⟨hCommand, hFile⟩ :=
      same_of_plainArguments_eq hRun hOther hPlain
    exact exitCode_restyled hRun hOther hCommand hFile
      hSettings hAgree
  · exact fun hQuiet read => silent_response hRun hQuiet read
  · intro hCheck hParse hFile read
    exact exitCode_parse_of_check hRun hOther hCheck hParse hFile

/- A check, the same in another style, and a parse. -/
def plainArgs : List String :=
  ["check", "a.shep"]

def silentArgs : List String :=
  ["--quiet", "check", "--output", "json", "a.shep"]

def parseArgs : List String :=
  ["parse", "a.shep"]

/- Settings that choose a format, each another one. -/
def textSettings : String :=
  "output = \"text\"\n"

def jsonSettings : String :=
  "output = \"json\"\n"

/-
  The document passes a check that prints its report, and a
  silent one under settings that choose another format. So
  it is parsed as well.
-/
theorem rendering_harmless_noteFiles :
    Request.ofArguments plainArgs =
        .ok (.run ⟨.check false, "a.shep", none, false⟩) ∧
      Request.ofArguments silentArgs =
        .ok (.run ⟨.check false, "a.shep", some .json, true⟩) ∧
      Request.ofArguments parseArgs =
        .ok (.run ⟨.parse, "a.shep", none, false⟩) ∧
      (answer (noteFiles textSettings)
        plainArgs).response.exitCode = 0 ∧
      (answer (noteFiles jsonSettings)
        silentArgs).response.exitCode = 0 ∧
      (answer (noteFiles jsonSettings)
        silentArgs).response.output = "" ∧
      (answer (noteFiles jsonSettings)
        silentArgs).response.errorOutput = "" ∧
      (answer (noteFiles jsonSettings)
        parseArgs).response.exitCode = 0 := by
  have hPlain : Request.ofArguments plainArgs =
      .ok (.run ⟨.check false, "a.shep", none, false⟩) := by
    decide +kernel
  have hSilent : Request.ofArguments silentArgs =
      .ok (.run ⟨.check false, "a.shep", some .json, true⟩) := by
    decide +kernel
  have hParse : Request.ofArguments parseArgs =
      .ok (.run ⟨.parse, "a.shep", none, false⟩) := by
    decide +kernel
  have hPath : besides "a.shep" settingsName = "./shep.toml" := by
    decide +kernel
  have hText : Settings.ofReading?
      (noteFiles textSettings "./shep.toml") =
        some ⟨false, some .text, []⟩ := by
    rfl
  have hJson : Settings.ofReading?
      (noteFiles jsonSettings "./shep.toml") =
        some ⟨false, some .json, []⟩ := by
    rfl
  have hCheck : (answer (noteFiles textSettings)
      plainArgs).response.exitCode = 0 := by
    apply (exitCode_check_iff hPlain rfl _).mpr
    refine ⟨⟨false, some .text, []⟩, noteSource, noteSpec, ?_,
      rfl, rfl, passes_hide_iff.mp (by decide +kernel)⟩
    rw [Invocation.settingsPath, hPath]
    exact hText
  obtain ⟨hSame, _, _⟩ := rendering_harmless hPlain hSilent
  obtain ⟨_, hNothing, hParses⟩ :=
    rendering_harmless hSilent hParse
  have hCode : (answer (noteFiles jsonSettings)
      silentArgs).response.exitCode = 0 := by
    rw [hSame (noteFiles textSettings) _ (by decide +kernel),
      hCheck]
    · rw [Invocation.settingsPath, hPath]
      exact .format hText hJson rfl
    · rw [Invocation.settingsPath, hPath]
      exact agreeBesides_noteFiles textSettings jsonSettings
  obtain ⟨hOutput, hErrorOutput⟩ :=
    hNothing (by decide) (noteFiles jsonSettings)
  exact ⟨hPlain, hSilent, hParse, hCheck, hCode, hOutput,
    hErrorOutput, hParses (by decide) rfl rfl _ hCode⟩

end Blueprint
