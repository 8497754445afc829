import Blueprint.Issue.Finding
import Blueprint.Json.Decode
import Blueprint.Source.Location
import Blueprint.Spec.Json

/-
  Issues: findings at a place, in the form in which they are
  shown and stored.

  Main definitions:
    * `Issue`
    * `Issue.of`
    * `Issue.render`
    * `Issue.toJson`, `Issue.ofJson?`
-/

------------------------------------------------------------
-- Issues
------------------------------------------------------------

namespace Blueprint

/- A reported finding. -/
structure Issue where
  severity : Severity
  code : String
  message : String
  location : Option Location
  suggestion : Option String
deriving DecidableEq, Repr

namespace Issue

/- The issue of a finding at a place. -/
def of
    (finding : Finding)
    (location : Location) : Issue where
  severity := finding.severity
  code := finding.code.id
  message := finding.message
  location := some location
  suggestion := finding.suggestion?

/- The issue as `severity[code] file:line: message`. -/
def render (i : Issue) : String :=
  let place :=
    match i.location with
    | some location => " " ++ location.render
    | none => ""
  i.severity.word ++ "[" ++ i.code ++ "]" ++ place ++ ": " ++
    i.message

end Issue

end Blueprint

------------------------------------------------------------
-- Issues as JSON
------------------------------------------------------------

namespace Blueprint

namespace Severity

/-
  The severity that a JSON value writes: its word, or an
  object with `null` under the word.
-/
def ofJson? : Json → Option Severity
| .string word => ofWord? word
| .object [(word, .null)] => ofWord? word
| _ => none

end Severity

namespace Issue

/- An entry that is left out when there is no value. -/
def presentEntry
    {α : Type}
    (key : String)
    (encode : α → Json) : Option α → List (String × Json)
| none => []
| some a => [(key, encode a)]

def toJson (i : Issue) : Json :=
  .object <|
    [("severity", .string i.severity.word),
     ("code", .string i.code),
     ("message", .string i.message)] ++
    presentEntry "location" Location.toJson i.location ++
    presentEntry "suggestion" Json.string i.suggestion

def ofJson? (value : Json) : Option Issue := do
  let entries ← value.record?
    ["severity", "code", "message", "location", "suggestion"]
  let severity ←
    Json.field? entries "severity" Severity.ofJson?
  let code ← Json.field? entries "code" Json.string?
  let message ← Json.field? entries "message" Json.string?
  let location ←
    Json.optionalField? entries "location" Location.ofJson?
  let suggestion ←
    Json.optionalField? entries "suggestion" Json.string?
  return ⟨severity, code, message, location, suggestion⟩

end Issue

end Blueprint
