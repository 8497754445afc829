import Blueprint.Rule.AiCall
import Blueprint.Source.Block
import Blueprint.Source.Phrase

/-
  Rules: a description with an optional condition and an
  optional action.

  Main definitions:
    * `Condition`, `Rule`
    * `Condition.aiCall?`
    * `Condition.ofText?`
    * `Rule.ofBlock`
-/

------------------------------------------------------------
-- Rules
------------------------------------------------------------

namespace Blueprint

/- When a rule applies: free text, or a question to an AI. -/
inductive Condition where
| plain (text : String)
| ai (call : AiCall)
deriving DecidableEq, Repr

/- A declared rule. -/
structure Rule where
  description : String
  condition : Option Condition
  action : Option String
  location : Location
deriving DecidableEq, Repr

namespace Condition

/- The question to an AI, if the condition is one. -/
def aiCall? : Condition → Option AiCall
| .plain _ => none
| .ai call => some call

end Condition

namespace Rule

/- The question to an AI that a rule depends on. -/
def aiCall? (r : Rule) : Option AiCall :=
  r.condition.bind Condition.aiCall?

end Rule

end Blueprint

------------------------------------------------------------
-- Reading Rules
------------------------------------------------------------

namespace Blueprint

open Text

namespace Condition

/-
  The condition that a trimmed text writes. It is a question
  to an AI as soon as `ai(` occurs in it.
-/
def ofText? (text : List Char) : Option Condition :=
  if text.isEmpty then
    none
  else if (cutAround "ai(".toList text).isSome then
    some (.ai (AiCall.ofText text))
  else
    some (.plain (String.ofList text))

end Condition

namespace Rule

/- The trimmed parts on both sides of the top-level arrow. -/
def splitArrow
    (text : List Char) : List Char × List Char :=
  match cutTopLevel '→' text with
  | some (before, after) => (trim before, trim after)
  | none => (text, [])

/- The condition and the action of `if condition → action`. -/
def partsOfText
    (text : List Char) :
    Except Cause (Option Condition × Option String) :=
  match stripStart "if ".toList text with
  | none => .error (.notARuleLine (String.ofList text))
  | some rest =>
      let (condition, action) := splitArrow (trim rest)
      .ok (Condition.ofText? condition, nonempty? action)

/- The condition and the action of a body. -/
def partsOfBody
    (file : String) :
    List Line →
      Except Fault (Option Condition × Option String)
| [] => .ok (none, none)
| [line] => line.blame file (partsOfText line.text)
| _ :: second :: _ =>
    second.blame file (.error .secondRuleLine)

/-
  The rule with the described head and the given body. A
  missing description is kept as the empty text.
-/
def ofBlock
    (file : String)
    (rest : List Char)
    (block : Block) : Except Fault Rule := do
  let (condition, action) ← partsOfBody file block.body
  return {
    description := String.ofList (trim (unquoted rest))
    condition := condition
    action := action
    location := block.head.location file }

end Rule

end Blueprint
