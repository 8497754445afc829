import Blueprint.Proofs.Rule.AiCall
import Blueprint.Proofs.Rule.Document

/-
  Rules that ask an AI: what a line with a call declares,
  and what verification tells of the parts that the call
  lacks.

  Main definition:
    * `Asks`

  Main statements:
    * `asks_of_partsOfText`
    * `complete_call_read`
    * `incomplete_call_read`
-/

------------------------------------------------------------
-- What a Line Asks
------------------------------------------------------------

namespace Blueprint

open Text

/- The issue of a rule whose question lacks some parts. -/
def Rule.incompleteIssue
    (r : Rule)
    (missing : List String) : Issue :=
  .of (.error (.ruleAiIncomplete r.label missing)) r.location

/-
  A line asks a question, with some parts missing. A block
  with the line declares the rule, by itself and in every
  document that has the block. Verification tells of the
  question of the rule once if a part is missing, and else
  not at all. A document of such a block alone can be read.
-/
structure Asks
    (line : List Char)
    (call : AiCall)
    (action : Option String)
    (missing : List String) : Prop where
  alone :
    ∀ file b, b.IsRule line →
      Declaration.ofBlock file b =
        .ok (.rule (b.rule file (some (.ai call)) action))
  declared :
    ∀ file b source spec, b.IsRule line →
      Spec.parse file source = .ok spec →
        b ∈ documentBlocks source →
          b.rule file (some (.ai call)) action ∈ spec.rules
  reported :
    ∀ file b source spec, b.IsRule line →
      Spec.parse file source = .ok spec →
        b ∈ documentBlocks source →
          issuesAt .ruleAiIncomplete (b.head.location file)
              spec.verify.issues =
            if missing = [] then
              []
            else
              [(b.rule file (some (.ai call))
                action).incompleteIssue missing]
  written :
    ∀ file appName description, IsQuotable appName →
      '\n' ∉ description → '\n' ∉ line →
        Spec.parse file
            (ruleDocument appName description line) =
          .ok {
            appName := String.ofList appName
            entities := []
            screens := []
            flows := []
            rules :=
              [⟨String.ofList (trim description),
                some (.ai call), action, ⟨file, 2⟩⟩]
            integrations := []
            events := [] }

variable {line : List Char}
variable {call : AiCall}
variable {action : Option String}

/- A line asks what is read from it. -/
theorem asks_of_partsOfText
    (hSolid : IsSolid line)
    (hMark : line.head? ≠ some '#')
    (hParts : Rule.partsOfText line =
      .ok (some (.ai call), action)) :
    Asks line call action (missingParts call) where
  alone := fun file _ hRule => hRule.ofBlock_eq file hParts
  declared := fun _ _ _ _ hRule hSpec hBlock =>
    hRule.mem_rules hParts hSpec hBlock
  reported := by
    intro file b source spec hRule hSpec hBlock
    have hDeclared := hRule.mem_rules hParts hSpec hBlock
    have hIssues := issuesAt_location hSpec hDeclared
    have hIncomplete :
        (b.rule file (some (.ai call))
            action).incompleteIssues =
          if (missingParts call).isEmpty then
            []
          else
            [(b.rule file (some (.ai call))
              action).incompleteIssue (missingParts call)] :=
      rfl
    simp only [hIncomplete, List.isEmpty_iff] at hIssues
    exact hIssues
  written := fun file _ _ hName hDescription hLine =>
    parse_ruleDocument file hName hDescription hLine hSolid
      hMark hParts

/- A line with a call asks what is read from the call. -/
theorem asks_askText
    {argument : List Char}
    {action : Option (List Char)}
    (hArgument : Scans '→' (.plain 1) argument (.plain 1))
    (hAction : ∀ a ∈ action, IsSolid a)
    (hCall : AiCall.ofText (TypeForm.call "ai" argument) =
      call) :
    Asks (Rule.askText argument action) call
      (action.map String.ofList) (missingParts call) := by
  have hParts := Rule.partsOfText_askText hArgument hAction
  rw [hCall] at hParts
  exact asks_of_partsOfText
    (Rule.isSolid_askText argument hAction)
    (show some 'i' ≠ some '#' by decide) hParts

/- The parts that are blank are missing. -/
theorem missingParts_ofList
    (input prompt : List Char)
    (output : String) :
    missingParts
        ⟨String.ofList input, String.ofList prompt, output⟩ =
      (if isBlankText input then ["input"] else []) ++
        (if isBlankText prompt then ["prompt"] else []) := by
  simp only [missingParts, isBlankString,
    String.toList_ofList]

/- An input is not blank. -/
theorem AiCall.IsInput.isBlankText_eq_false
    {input : List Char}
    (hInput : AiCall.IsInput input) :
    isBlankText input = false := by
  rw [isBlankText, hInput.solid.trim_eq,
    List.isEmpty_eq_false_iff]
  exact hInput.solid.ne_nil

end Blueprint

------------------------------------------------------------
-- Complete Calls
------------------------------------------------------------

namespace Blueprint

open Text

variable {input prompt : List Char}
variable {action : Option (List Char)}

/-
  A call with an input and a prompt is read back with both,
  and with the action of the line, whatever delimiters the
  prompt and the action hold. Verification misses the prompt
  exactly if it is blank.
-/
theorem complete_call_read
    (hInput : AiCall.IsInput input)
    (hPrompt : IsEscaped prompt)
    (hAction : ∀ a ∈ action, IsSolid a) :
    Asks
      (Rule.askText (AiCall.argumentText input prompt) action)
      ⟨String.ofList input, String.ofList prompt, "boolean"⟩
      (action.map String.ofList)
      (if isBlankText prompt then ["prompt"] else []) := by
  have hAsks := asks_askText
    (AiCall.scans_argumentText hInput hPrompt) hAction
    (AiCall.ofText_complete hInput hPrompt)
  rw [missingParts_ofList, hInput.isBlankText_eq_false]
    at hAsks
  exact hAsks

/- A prompt with the delimiters of a line and of a call. -/
def spamPrompt : List Char :=
  "Is it spam, or ai(x) → \\\"no\\\"?".toList

/- A rule that asks with this prompt. -/
def spamSource : String :=
  "app \"Forum\"\nrule \"No spam\"\n" ++
    "  if ai(post.text, " ++
    "\"Is it spam, or ai(x) → \\\"no\\\"?\") " ++
    "→ hide Post → log"

/- The rule that is meant. -/
def spamRule : Rule where
  description := "No spam"
  condition := some (.ai
    ⟨"post.text", "Is it spam, or ai(x) → \\\"no\\\"?",
      "boolean"⟩)
  action := some "hide Post → log"
  location := ⟨"forum", 2⟩

/- The rule is read with its prompt and lacks nothing. -/
theorem complete_call_read_spamSource :
    Spec.parse "forum" spamSource =
        .ok ⟨"Forum", [], [], [], [spamRule], [], []⟩ ∧
      Asks
        (Rule.askText
          (AiCall.argumentText "post.text".toList spamPrompt)
          (some "hide Post → log".toList))
        ⟨"post.text", "Is it spam, or ai(x) → \\\"no\\\"?",
          "boolean"⟩
        (some "hide Post → log") [] := by
  have hInput : AiCall.IsInput "post.text".toList := by
    decide
  have hPrompt : IsEscaped spamPrompt := by
    decide
  have hAction : ∀ a ∈ some "hide Post → log".toList,
      IsSolid a := by
    decide
  have hName : IsQuotable "Forum".toList :=
    ⟨by decide, by decide⟩
  have hAsks := complete_call_read hInput hPrompt hAction
  have hSource : spamSource = ruleDocument "Forum".toList
      "No spam".toList (Rule.askText
        (AiCall.argumentText "post.text".toList spamPrompt)
        (some "hide Post → log".toList)) := by
    decide +kernel
  rw [hSource]
  exact ⟨hAsks.written "forum" "Forum".toList
    "No spam".toList hName (by decide) (by decide), hAsks⟩

end Blueprint

------------------------------------------------------------
-- Incomplete Calls
------------------------------------------------------------

namespace Blueprint

open Text

/-
  A call of a prompt alone is read back with its prompt, and
  a call of an input alone with its input. Verification
  misses the prompt of the second one. It misses the input
  of the first one unless the prompt has a comma with more
  than blanks before it: that text is taken for the input.
-/
theorem incomplete_call_read
    (action : Option (List Char))
    (hAction : ∀ a ∈ action, IsSolid a) :
    (∀ prompt, IsEscaped prompt →
      isBlankText prompt = false →
        Asks (Rule.askText (inQuotes prompt) action)
          ⟨String.ofList (AiCall.promptHead prompt),
            String.ofList prompt, "boolean"⟩
          (action.map String.ofList)
          (if ',' ∈ prompt ∧
              isBlankText (prompt.takeWhile (· != ',')) =
                false then
            []
          else
            ["input"])) ∧
      ∀ input, AiCall.IsInput input →
        Asks (Rule.askText input action)
          ⟨String.ofList input, "", "boolean"⟩
          (action.map String.ofList) ["prompt"] := by
  constructor
  · intro prompt hPrompt hSome
    have hAsks := asks_askText
      (scans_inQuotes 1 (by decide) hPrompt) hAction
      (AiCall.ofText_prompt hPrompt hSome)
    have hBlank := AiCall.isBlankText_promptHead_iff hPrompt
    rw [missingParts_ofList, hSome] at hAsks
    by_cases hHead : ',' ∈ prompt ∧
        isBlankText (prompt.takeWhile (· != ',')) = false
    · have hFull :
          isBlankText (AiCall.promptHead prompt) = false := by
        rw [Bool.eq_false_iff, Ne, hBlank, hHead.2]
        simp [hHead.1]
      rw [hFull] at hAsks
      rw [if_pos hHead]
      exact hAsks
    · have hNone :
          isBlankText (AiCall.promptHead prompt) = true := by
        rw [hBlank]
        simpa using hHead
      rw [hNone] at hAsks
      rw [if_neg hHead]
      exact hAsks
  · intro input hInput
    have hAsks := asks_askText
      (scans_plain 1 hInput.plain (by simp)) hAction
      (AiCall.ofText_input hInput)
    have hMissing := missingParts_ofList input [] "boolean"
    rw [hInput.isBlankText_eq_false] at hMissing
    rw [show missingParts ⟨String.ofList input, "", "boolean"⟩ =
      ["prompt"] from hMissing] at hAsks
    exact hAsks

/- A prompt without a comma, and an input without a prompt. -/
theorem incomplete_call_read_spam :
    Asks
        (Rule.askText (inQuotes "Is it spam?".toList)
          (some "hide Post".toList))
        ⟨"", "Is it spam?", "boolean"⟩
        (some "hide Post") ["input"] ∧
      Asks
        (Rule.askText "post.text".toList
          (some "hide Post".toList))
        ⟨"post.text", "", "boolean"⟩
        (some "hide Post") ["prompt"] := by
  have hAction : ∀ a ∈ some "hide Post".toList,
      IsSolid a := by
    decide
  have hCalls := incomplete_call_read _ hAction
  have hPrompt := hCalls.1 "Is it spam?".toList (by decide)
    (by decide)
  have hInput := hCalls.2 "post.text".toList (by decide)
  exact ⟨hPrompt, hInput⟩

/- A rule with a comma in the only argument of its call. -/
def commaSource : String :=
  "app \"Forum\"\nrule \"No spam\"\n" ++
    "  if ai(\"Is it spam, really?\") → hide Post"

/-
  A part of the prompt becomes the input, and nothing is
  said to be missing.
-/
theorem incomplete_call_read_comma :
    IsEscaped "Is it spam, really?".toList ∧
      isBlankText "Is it spam, really?".toList = false ∧
      commaSource = ruleDocument "Forum".toList
        "No spam".toList (Rule.askText
          (inQuotes "Is it spam, really?".toList)
          (some "hide Post".toList)) ∧
      ∃ spec, Spec.parse "forum" commaSource = .ok spec ∧
        spec.rules =
          [⟨"No spam",
            some (.ai ⟨"Is it spam", "Is it spam, really?",
              "boolean"⟩),
            some "hide Post", ⟨"forum", 2⟩⟩] ∧
        issuesAt .ruleAiIncomplete ⟨"forum", 2⟩
          spec.verify.issues = [] := by
  exact ⟨by decide, by decide, by decide +kernel, _, rfl,
    by decide +kernel, by decide +kernel⟩

end Blueprint
