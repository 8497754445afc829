import Blueprint.CommandLine.Outcome
import Blueprint.Spec.Json

/-
  Responses: what a command line prints, and the exit code
  that it ends with.

  Results go to the output, and troubles and the faults that
  prevent a check go to the error output. Each of these ways
  to answer looks for itself whether it has to be quiet.

  Log lines are no part of a response. They go to the error
  output too, but at the default level there are none. There
  is no exit for a result that cannot be written as JSON
  either, as every result can.

  Main definitions:
    * `Response`
    * `Trouble.response`, `faultsResponse`,
      `Report.response`, `readingResponse`
    * `Outcome.response`
    * `Answer`, `Answer.response`
    * `answer`
-/

------------------------------------------------------------
-- Responses
------------------------------------------------------------

namespace Blueprint

/- What is printed, and the exit code. -/
structure Response where
  exitCode : UInt32
  output : String
  errorOutput : String
deriving DecidableEq, Repr

namespace Response

/- The response that prints nothing. -/
def silent (exitCode : UInt32) : Response :=
  ⟨exitCode, "", ""⟩

/- The response with a text on the output. -/
def printing
    (exitCode : UInt32)
    (text : String) : Response :=
  ⟨exitCode, text, ""⟩

/- The response with a text on the error output. -/
def complaining
    (exitCode : UInt32)
    (text : String) : Response :=
  ⟨exitCode, "", text⟩

end Response

/- Lines as a text, each with its end. -/
def textOfLines (lines : List String) : String :=
  String.join (lines.map (· ++ "\n"))

end Blueprint

------------------------------------------------------------
-- Texts
------------------------------------------------------------

namespace Blueprint

namespace Trouble

def text (t : Trouble) : Format → String
| .text => t.message ++ "\n"
| .json =>
    let value : Json := .object [("error", .string t.message)]
    value.compact ++ "\n"

end Trouble

/- The faults that prevent a check, in a format. -/
def faultsText
    (faults : List Fault) : Format → String
| .text =>
    textOfLines
      (faults.map fun f => "parse error: " ++ f.render)
| .json =>
    let value : Json :=
      .object
        [("errors", .ofList Fault.toJson faults),
         ("success", .bool false)]
    value.pretty ++ "\n"

namespace Issue

/- The lines of an issue: itself, and what it suggests. -/
def lines (i : Issue) : List String :=
  match i.suggestion with
  | none => [i.render]
  | some advice => [i.render, "  suggestion: " ++ advice]

end Issue

namespace Summary

/- The lines that tell what was looked at. -/
def lines (s : Summary) : List String :=
  ["  " ++ toString s.entities ++ " entities, " ++
     toString s.screens ++ " screens, " ++
     toString s.flows ++ " flows, " ++
     toString s.rules ++ " rules, " ++
     toString s.integrations ++ " integrations, " ++
     toString s.events ++ " events",
   "  " ++ toString s.relationshipsChecked ++
     " relationships checked, " ++
     toString s.wiringChecks ++ " wiring checks"]

end Summary

namespace Report

/- The line with the verdict on a document. -/
def verdictLine
    (r : Report)
    (file : String) : String :=
  let verdict := if r.success then "ok" else "failed"
  file ++ ": " ++ verdict ++ " (" ++
    toString r.errorCount ++ " errors, " ++
    toString r.warningCount ++ " warnings, " ++
    toString r.infoCount ++ " notes)"

/- The lines of a report on a document. -/
def lines
    (r : Report)
    (file : String) : List String :=
  let shown := r.issues.flatMap Issue.lines
  let gap := if r.issues.isEmpty then [] else [""]
  shown ++ gap ++ [r.verdictLine file] ++ r.summary.lines

/- A report on a document in a format. -/
def text
    (r : Report)
    (file : String) : Format → String
| .text => textOfLines (r.lines file)
| .json => r.toJson.pretty ++ "\n"

end Report

end Blueprint

------------------------------------------------------------
-- Ways to Answer
------------------------------------------------------------

namespace Blueprint

/- The response to a command that had a trouble. -/
def Trouble.response
    (t : Trouble)
    (format : Format)
    (quiet : Bool) : Response :=
  if quiet then
    .silent 1
  else
    .complaining 1 (t.text format)

/- The response to a check of a faulty document. -/
def faultsResponse
    (faults : List Fault)
    (format : Format)
    (quiet : Bool) : Response :=
  if quiet then
    .silent 1
  else
    .complaining 1 (faultsText faults format)

/- The response to a check with a report. -/
def Report.response
    (r : Report)
    (file : String)
    (strict : Bool)
    (format : Format)
    (quiet : Bool) : Response :=
  let exitCode := if Outcome.passes r strict then 0 else 1
  if quiet then
    .silent exitCode
  else
    .printing exitCode (r.text file format)

/- The response to a parse, which is JSON in every format. -/
def readingResponse
    (reading : Except (List Fault) Spec)
    (quiet : Bool) : Response :=
  let exitCode := if reading.isOk then 0 else 1
  if quiet then
    .silent exitCode
  else
    .printing exitCode
      ((Spec.readingToJson reading).pretty ++ "\n")

end Blueprint

------------------------------------------------------------
-- Answers
------------------------------------------------------------

namespace Blueprint

namespace Outcome

/- The response to a command in a format, or a quiet one. -/
def response
    (o : Outcome)
    (format : Format)
    (quiet : Bool) : Response :=
  match o with
  | .trouble t => t.response format quiet
  | .parsed reading => readingResponse reading quiet
  | .faulty faults => faultsResponse faults format quiet
  | .checked file report strict =>
      report.response file strict format quiet

end Outcome

namespace Invocation

/-
  The format of the answer: of the flag, or else of the
  settings, or else text.
-/
def answerFormat
    (i : Invocation)
    (read : String → Reading) : Format :=
  let preset :=
    match i.settings read with
    | .ok settings => settings.format
    | .error _ => none
  (i.format.or preset).getD .text

end Invocation

/- What a command line is answered. -/
inductive Answer where
| misuse (m : Misuse)
| help
| version
| outcome (o : Outcome) (format : Format) (quiet : Bool)

/- The name of the program and its version. -/
def versionText : String :=
  "shep 0.1.0\n"

/- How the program is used. -/
def helpText : String :=
  textOfLines
    ["Shep specification checker",
     "",
     "Usage: shep [--output <format>] [--quiet] <command>",
     "",
     "Commands:",
     "  check <file> [--strict]  parse and verify a document",
     "  parse <file>             print a document as JSON",
     "  help                     print this text",
     "",
     "Flags:",
     "  --output <format>  text or json",
     "  --quiet            print nothing",
     "  -h, --help         print this text",
     "  -V, --version      print the version"]

namespace Answer

def response : Answer → Response
| .misuse m => .complaining 2 ("error: " ++ m.message ++ "\n")
| .help => .printing 0 helpText
| .version => .printing 0 versionText
| .outcome o format quiet => o.response format quiet

end Answer

/- The answer to a request where paths read as given. -/
def Request.answer
    (read : String → Reading) : Request → Answer
| .help => .help
| .version => .version
| .run i => .outcome (i.outcome read) (i.answerFormat read) i.quiet

/- The answer to arguments where paths read as given. -/
def answer
    (read : String → Reading)
    (arguments : List String) : Answer :=
  match Request.ofArguments arguments with
  | .error m => .misuse m
  | .ok request => request.answer read

end Blueprint
