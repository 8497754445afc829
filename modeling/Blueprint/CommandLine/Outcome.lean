import Blueprint.CommandLine.Request
import Blueprint.FileTree
import Blueprint.Verify

/-
  Outcomes: what comes of running a command.

  Neither the format of the answer nor the wish for silence
  has a part in the outcome, so they have none in the exit
  code.

  Main definitions:
    * `Trouble`, `Outcome`
    * `Outcome.succeeds`
    * `checkDocument`, `parseDocument`
    * `Invocation.settings`, `Invocation.outcome`
-/

------------------------------------------------------------
-- Outcomes
------------------------------------------------------------

namespace Blueprint

/- What keeps a command from looking at its document. -/
inductive Trouble where
| unreadable (path : String) (fault : ReadFault)
| invalidSettings (path reason : String)
deriving DecidableEq, Repr

namespace Trouble

/- What is told about a trouble. -/
def message : Trouble → String
| .unreadable path fault =>
    "error reading file '" ++ path ++ "': " ++ fault.message
| .invalidSettings path reason =>
    "invalid config '" ++ path ++ "': " ++ reason

end Trouble

/-
  What comes of a command: a trouble, a document that was
  parsed or not, a document that could not be checked for
  its faults, or a report on a document, which may be
  strict on warnings.
-/
inductive Outcome where
| trouble (t : Trouble)
| parsed (reading : Except (List Fault) Spec)
| faulty (faults : List Fault)
| checked (file : String) (report : Report) (strict : Bool)

namespace Outcome

/- A report has no errors, and if strict no warnings. -/
def passes
    (report : Report)
    (strict : Bool) : Bool :=
  report.errorCount == 0 &&
    !(strict && 0 < report.warningCount)

def succeeds : Outcome → Bool
| .trouble _ => false
| .parsed (.ok _) => true
| .parsed (.error _) => false
| .faulty _ => false
| .checked _ report strict => passes report strict

/- The exit code of a command. -/
def exitCode (o : Outcome) : UInt32 :=
  if o.succeeds then 0 else 1

end Outcome

end Blueprint

------------------------------------------------------------
-- Documents
------------------------------------------------------------

namespace Blueprint

/- Look at a document without checking it. -/
def parseDocument
    (file source : String) : Outcome :=
  .parsed (Spec.parse file source)

/-
  Check a document. It is checked strictly if a flag or the
  settings say so, and the issues that the settings ignore
  are hidden.
-/
def checkDocument
    (settings : Settings)
    (strict : Bool)
    (file source : String) : Outcome :=
  match check file source with
  | .error faults => .faulty faults
  | .ok report =>
      .checked file (report.hide settings.ignore)
        (strict || settings.strict)

end Blueprint

------------------------------------------------------------
-- Commands
------------------------------------------------------------

namespace Blueprint

/- The name of the file of settings in every folder. -/
def settingsName : String :=
  "shep.toml"

namespace Invocation

/- The path of the settings for a document. -/
def settingsPath (i : Invocation) : String :=
  besides i.file settingsName

/- The paths that a command may read. -/
def paths (i : Invocation) : List String :=
  [i.settingsPath, i.file]

/-
  The settings that a text gives. Every refusal is given the
  same reason: the place in the text that led to it is left
  out.
-/
def settingsOfText
    (i : Invocation)
    (source : String) : Except Trouble Settings :=
  match Settings.ofText? source with
  | some settings => .ok settings
  | none =>
      .error (.invalidSettings i.settingsPath
        "expected only strict, output and ignore")

/- The settings in force, which only a check asks for. -/
def settings
    (i : Invocation)
    (read : String → Reading) : Except Trouble Settings :=
  match i.command with
  | .parse => .ok .default
  | .check _ =>
      let reading := read i.settingsPath
      if reading.isOfFile then
        match reading with
        | .ok source => i.settingsOfText source
        | .error fault =>
            .error (.unreadable i.settingsPath fault)
      else
        .ok .default

/- What comes of the command for the text of its document. -/
def outcomeOfText
    (i : Invocation)
    (settings : Settings)
    (source : String) : Outcome :=
  match i.command with
  | .parse => parseDocument i.file source
  | .check strict =>
      checkDocument settings strict i.file source

/- What comes of a command where paths read as given. -/
def outcome
    (i : Invocation)
    (read : String → Reading) : Outcome :=
  match i.settings read with
  | .error trouble => .trouble trouble
  | .ok settings =>
      match read i.file with
      | .error fault => .trouble (.unreadable i.file fault)
      | .ok source => i.outcomeOfText settings source

end Invocation

end Blueprint
