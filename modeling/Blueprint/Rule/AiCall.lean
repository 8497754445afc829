import Blueprint.Text.Quoted

/-
  Conditions that an AI decides, written as
  `ai(input, "prompt")`.

  A complete call may stand anywhere in a condition. When
  there is none, whatever part of a call can be found is
  kept, so that the missing part can be reported later.

  Main definitions:
    * `AiCall`
    * `AiCall.complete?`
    * `AiCall.partsOf`
    * `AiCall.ofText`
-/

------------------------------------------------------------
-- AI Calls
------------------------------------------------------------

namespace Blueprint

/- A question to an AI about an input. -/
structure AiCall where
  input : String
  prompt : String
  expectedOutput : String
deriving DecidableEq, Repr

end Blueprint

------------------------------------------------------------
-- Complete Calls
------------------------------------------------------------

namespace Blueprint

open Text

namespace AiCall

/- The characters that an input cannot hold. -/
def endsInput (c : Char) : Bool :=
  c == ',' || c == '(' || c == ')' || c == '"'

/-
  The input and the prompt of a complete call, for a text
  that starts after `ai(`.
-/
def arguments?
    (text : List Char) :
    Option (List Char × List Char) :=
  let input := text.takeWhile fun c => !endsInput c
  let rest := text.dropWhile fun c => !endsInput c
  match input, rest with
  | [], _ => none
  | _, ',' :: afterComma =>
      match quoted? (trimStart afterComma) with
      | none => none
      | some (prompt, after) =>
          match trimStart after with
          | ')' :: _ => some (trim input, prompt)
          | _ => none
  | _, _ => none

/- The arguments of the first complete call in a text. -/
def complete? :
    List Char → Option (List Char × List Char)
| [] => none
| c :: rest =>
    match (stripStart "ai(".toList (c :: rest)).bind
        arguments? with
    | some found => some found
    | none => complete? rest

end AiCall

end Blueprint

------------------------------------------------------------
-- Reading Calls
------------------------------------------------------------

namespace Blueprint

open Text

namespace AiCall

/-
  The text after the first `ai(`, or the whole text, without
  its closing parentheses.
-/
def insideText (text : List Char) : List Char :=
  let after :=
    match cutAround "ai(".toList text with
    | some (_, after) => after
    | none => text
  dropEndWhile (· == ')') (trimEnd after)

/-
  The input and the prompt that can be found in a text
  without a complete call: the prompt is the first quoted
  text, and the input is what stands before the first comma,
  or all there is when there is no prompt either.
-/
def partsOf
    (text : List Char) : List Char × List Char :=
  let inside := insideText text
  let prompt := (firstQuoted? inside).getD []
  let input :=
    match cutAt (· == ',') inside with
    | some (before, _) => trim before
    | none => if prompt.isEmpty then trim inside else []
  (trimMatches '"' input, prompt)

/- The call that a condition text writes. -/
def ofText (text : List Char) : AiCall :=
  let (input, prompt) := (complete? text).getD (partsOf text)
  { input := String.ofList input
    prompt := String.ofList prompt
    expectedOutput := "boolean" }

end AiCall

end Blueprint
