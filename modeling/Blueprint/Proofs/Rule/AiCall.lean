import Blueprint.Proofs.Rule.Arrow
import Blueprint.Proofs.Text.Cut
import Blueprint.Proofs.Written.Type

/-
  Questions to an AI as they are written, with both parts or
  with one of them, and what is read of them.

  Main definitions:
    * `AiCall.IsInput`
    * `AiCall.promptHead`
    * `Rule.askText`

  Main statements:
    * `Rule.isSolid_askText`, `Rule.partsOfText_askText`
    * `AiCall.ofText_complete`
    * `AiCall.ofText_prompt`, `AiCall.ofText_input`
    * `AiCall.isBlankText_promptHead_iff`
-/

------------------------------------------------------------
-- Lines that Ask
------------------------------------------------------------

namespace Blueprint

open Text

namespace Rule

/- The end of a line: an arrow and an action, if any. -/
def actionText : Option (List Char) → List Char
| none => []
| some action => " → ".toList ++ action

/- The line of a rule that asks an AI. -/
def askText
    (argument : List Char)
    (action : Option (List Char)) : List Char :=
  "if ".toList ++
    (TypeForm.call "ai" argument ++ actionText action)

/- A line that asks is solid. -/
theorem isSolid_askText
    (argument : List Char)
    {action : Option (List Char)}
    (hAction : ∀ a ∈ action, IsSolid a) :
    IsSolid (askText argument action) := by
  have hWord : IsSolid "if".toList := by decide
  have hCall : IsSolid (TypeForm.call "ai" argument) :=
    TypeForm.isSolid_call argument (by decide)
  have hStart := hWord.append hCall [' ']
  cases action with
  | none =>
      rw [askText, actionText, List.append_nil]
      exact hStart
  | some a =>
      have hWhole := hStart.append (hAction a rfl) " → ".toList
      rw [List.append_assoc, List.append_assoc] at hWhole
      exact hWhole

/- A call is a question to an AI. -/
theorem ofText?_call (argument : List Char) :
    Condition.ofText? (TypeForm.call "ai" argument) =
      some (.ai (AiCall.ofText
        (TypeForm.call "ai" argument))) :=
  rfl

/-
  A line that asks is cut behind its call, whatever arrows
  the call holds in brackets and the action holds anywhere.
-/
theorem partsOfText_askText
    {argument : List Char}
    {action : Option (List Char)}
    (hArgument : Scans '→' (.plain 1) argument (.plain 1))
    (hAction : ∀ a ∈ action, IsSolid a) :
    partsOfText (askText argument action) =
      .ok (some (.ai (AiCall.ofText
          (TypeForm.call "ai" argument))),
        action.map String.ofList) := by
  have hCall : Scans '→' .outermost
      (TypeForm.call "ai" argument) .outermost :=
    TypeForm.scans_call (by decide) (by decide) (by decide)
      (by decide) hArgument
  have hSolid : IsSolid (TypeForm.call "ai" argument) :=
    TypeForm.isSolid_call argument (by decide)
  cases action with
  | none =>
      have hCut : cutTopLevel '→'
          (TypeForm.call "ai" argument ++ []) = none :=
        hCall.cutTopLevelFrom_append []
      rw [List.append_nil] at hCut
      rw [askText, partsOfText_if, actionText,
        List.append_nil, hSolid.trim_eq, splitArrow, hCut]
      dsimp only
      rw [ofText?_call]
      rfl
  | some a =>
      have hEnd : IsSolid a := hAction a rfl
      have hSpace : ∀ c ∈ [' '], isBlank c = true :=
        List.forall_mem_singleton.mpr rfl
      have hNone : ∀ c ∈ ([] : List Char), isBlank c = true :=
        List.forall_mem_nil _
      have hBefore : trim (TypeForm.call "ai" argument ++
          [' ']) = TypeForm.call "ai" argument :=
        hSolid.trim_append hNone hSpace
      have hAfter : trim (' ' :: a) = a := by
        rw [trim_cons_of_blank a (by decide), hEnd.trim_eq]
      have hPlain : Scans '→' .outermost [' '] .outermost :=
        scans_plain 0 (by simp [IsPlain]) (by decide)
      have hScan := hCall.append hPlain
      have hText : askText argument (some a) =
          arrowText (TypeForm.call "ai" argument ++ [' '])
            (' ' :: a) := by
        rw [arrowText, List.append_assoc]
        rfl
      have hSome : nonempty? a = some (String.ofList a) := by
        rw [nonempty?, if_neg (by simpa using hEnd.ne_nil)]
      rw [hText, partsOfText_arrowText _ hScan.isLevel
        (fun before after hPlace => hScan.not_isLevel hPlace),
        hBefore, hAfter, ofText?_call, hSome]
      rfl

end Rule

end Blueprint

------------------------------------------------------------
-- Complete Calls
------------------------------------------------------------

namespace Blueprint

open Text

namespace AiCall

/- A text that can stand for the input of a call. -/
structure IsInput (text : List Char) : Prop where
  solid : IsSolid text
  plain : ∀ c ∈ text, IsPlain c
  comma : ',' ∉ text

-- Over the characters of the text alone: the type of all
-- characters is finite too, and far too large to go through.
instance (text : List Char) : Decidable (IsInput text) :=
  decidable_of_iff
    (IsSolid text ∧ text.all (IsPlain ·) = true ∧ ',' ∉ text)
    ⟨fun ⟨hSolid, hPlain, hComma⟩ =>
        ⟨hSolid, by simpa using hPlain, hComma⟩,
      fun h => ⟨h.solid, by simpa using h.plain, h.comma⟩⟩

variable {input prompt : List Char}

/- No character of an input ends it. -/
theorem IsInput.endsInput_eq_false
    (hInput : IsInput input) :
    ∀ c ∈ input, endsInput c = false := by
  intro c hMem
  rcases hInput.plain c hMem with
    ⟨hQuote, hOpening, _, hClosing, _⟩
  have hComma : c ≠ ',' := by
    rintro rfl
    exact hInput.comma hMem
  simp [endsInput, hQuote, hOpening, hClosing, hComma]

/- An input is read up to the character that ends it. -/
theorem IsInput.takeWhile_append_cons
    {c : Char}
    (hInput : IsInput input)
    (rest : List Char)
    (hEnd : endsInput c = true) :
    (input ++ c :: rest).takeWhile
          (fun d => !endsInput d) = input ∧
      (input ++ c :: rest).dropWhile
          (fun d => !endsInput d) = c :: rest := by
  have hText : ∀ d ∈ input, (!endsInput d) = true := by
    intro d hMem
    rw [hInput.endsInput_eq_false d hMem]
    rfl
  rw [List.takeWhile_append_of_pos hText,
    List.dropWhile_append_of_pos hText]
  simp [hEnd]

/- What stands between the brackets of a complete call. -/
def argumentText (input prompt : List Char) : List Char :=
  input ++ ", ".toList ++ inQuotes prompt

/- Both arguments are read back, whatever the prompt holds. -/
theorem arguments?_argumentText
    (rest : List Char)
    (hInput : IsInput input)
    (hPrompt : IsEscaped prompt) :
    arguments? (argumentText input prompt ++ ')' :: rest) =
      some (input, prompt) := by
  have hText : argumentText input prompt ++ ')' :: rest =
      input ++ ',' :: (' ' :: inQuotes prompt ++
        ')' :: rest) := by
    simp [argumentText]
  have hSplit := hInput.takeWhile_append_cons
    (' ' :: inQuotes prompt ++ ')' :: rest)
    (show endsInput ',' = true by decide)
  have hStart : trimStart
      (' ' :: inQuotes prompt ++ ')' :: rest) =
        inQuotes prompt ++ ')' :: rest :=
    rfl
  have hQuoted := quoted?_inQuotes (')' :: rest) hPrompt
  have hEnd : trimStart (')' :: rest) = ')' :: rest :=
    trimStart_cons (by decide)
  unfold arguments?
  rw [hText, hSplit.1, hSplit.2]
  cases input with
  | nil => exact absurd rfl hInput.solid.ne_nil
  | cons c input =>
      simp only [hStart, hQuoted, hEnd, hInput.solid.trim_eq]

/- Arguments are found right behind the first `ai(`. -/
theorem complete?_of_arguments?
    {text : List Char}
    {found : List Char × List Char}
    (hFound : arguments? text = some found) :
    complete? ('a' :: 'i' :: '(' :: text) = some found := by
  have hStrip : stripStart "ai(".toList
      ('a' :: 'i' :: '(' :: text) = some text :=
    stripStart_eq_some_iff.mpr rfl
  rw [complete?, hStrip, Option.bind_some, hFound]

/- A complete call is read back. -/
theorem ofText_complete
    (hInput : IsInput input)
    (hPrompt : IsEscaped prompt) :
    ofText (TypeForm.call "ai"
        (argumentText input prompt)) =
      ⟨String.ofList input, String.ofList prompt,
        "boolean"⟩ := by
  have hComplete : complete? (TypeForm.call "ai"
      (argumentText input prompt)) = some (input, prompt) :=
    complete?_of_arguments?
      (arguments?_argumentText [] hInput hPrompt)
  rw [ofText, hComplete]
  rfl

/- The arguments hide all of their arrows in the brackets. -/
theorem scans_argumentText
    (hInput : IsInput input)
    (hPrompt : IsEscaped prompt) :
    Scans '→' (.plain 1) (argumentText input prompt)
      (.plain 1) := by
  have hStart : Scans '→' (.plain 1) input (.plain 1) :=
    scans_plain 1 hInput.plain (by simp)
  have hBetween : Scans '→' (.plain 1) ", ".toList
      (.plain 1) :=
    scans_plain 1 (by simp [IsPlain]) (by simp)
  exact (hStart.append hBetween).append
    (scans_inQuotes 1 (by decide) hPrompt)

end AiCall

end Blueprint

------------------------------------------------------------
-- Calls that Are Not Complete
------------------------------------------------------------

namespace Blueprint

open Text

namespace AiCall

variable {text : List Char}

/-
  A prompt that can be read starts with a quote that comes
  after a comma or a blank.
-/
def HasPrompt (text : List Char) : Prop :=
  ∃ before c after,
    text = before ++ c :: '"' :: after ∧
      (c = ',' ∨ isBlank c = true) ∧
      (quotedBody? after).isSome = true

/- Arguments that are found have a prompt. -/
theorem hasPrompt_of_arguments?
    {found : List Char × List Char}
    (hFound : arguments? text = some found) :
    HasPrompt text := by
  have hText : text.takeWhile (fun c => !endsInput c) ++
      text.dropWhile (fun c => !endsInput c) = text :=
    List.takeWhile_append_dropWhile
  unfold arguments? at hFound
  dsimp only at hFound
  split at hFound
  · cases hFound
  · rename_i afterComma hRest _
    split at hFound
    · cases hFound
    · rename_i prompt after hQuoted
      obtain ⟨rest, hStart, hBody⟩ :=
        quoted?_eq_some_iff.mp hQuoted
      obtain ⟨blanks, hBlanks, hAfter⟩ :=
        exists_eq_append_trimStart afterComma
      rw [hRest, hAfter, hStart] at hText
      generalize text.takeWhile _ = input at hText
      have hSome : (quotedBody? rest).isSome = true :=
        Option.isSome_of_mem hBody
      rcases List.eq_nil_or_concat blanks with
        rfl | ⟨blanks, c, rfl⟩
      · exact ⟨input, ',', rest, hText.symm, .inl rfl, hSome⟩
      · rw [List.concat_eq_append] at hText hBlanks
        have hLast := hBlanks c (by simp)
        refine ⟨input ++ ',' :: blanks, c, rest, ?_,
          .inr hLast, hSome⟩
        rw [← hText]
        simp
  · cases hFound

/- So has every text with a complete call. -/
theorem hasPrompt_of_complete?
    {found : List Char × List Char}
    (hFound : complete? text = some found) :
    HasPrompt text := by
  induction text with
  | nil => cases hFound
  | cons first rest ih =>
      unfold complete? at hFound
      split at hFound
      · rename_i found hHere
        obtain ⟨after, hStrip, hArguments⟩ :=
          Option.bind_eq_some_iff.mp hHere
        obtain ⟨before, c, more, rfl, hPrompt⟩ :=
          hasPrompt_of_arguments? hArguments
        refine ⟨"ai(".toList ++ before, c, more, ?_, hPrompt⟩
        rw [stripStart_eq_some_iff.mp hStrip,
          List.append_assoc]
      · obtain ⟨before, c, more, rfl, hPrompt⟩ := ih hFound
        exact ⟨first :: before, c, more, rfl, hPrompt⟩

/- A call of an input alone is not complete. -/
theorem complete?_input
    {input : List Char}
    (hInput : IsInput input) :
    complete? (TypeForm.call "ai" input) = none := by
  by_contra hSome
  obtain ⟨found, hFound⟩ :=
    Option.ne_none_iff_exists'.mp hSome
  obtain ⟨before, c, after, hText, _⟩ :=
    hasPrompt_of_complete? hFound
  have hQuote : '"' ∉ TypeForm.call "ai" input := by
    have hPlain : '"' ∉ input :=
      fun hMem => (hInput.plain _ hMem).1 rfl
    simp [TypeForm.call, hPlain]
  rw [hText] at hQuote
  simp at hQuote

/- Up to its last one, a prompt has no unescaped quote. -/
theorem eq_backslash_or_eq_of_isEscaped
    {prompt before after : List Char}
    {c : Char}
    (hPrompt : IsEscaped prompt)
    (hText : prompt ++ ['"', ')'] =
      before ++ c :: '"' :: after) :
    c = '\\' ∨ after = [')'] := by
  have hSame : (before ++ [c]) ++ '"' :: after =
      prompt ++ ['"', ')'] := by
    rw [hText, List.append_assoc]
    rfl
  rcases List.append_eq_append_iff.mp hSame with
    ⟨more, hLong, hMore⟩ | ⟨more, hLong, hMore⟩
  · cases more with
    | nil =>
        cases hMore
        exact .inr rfl
    | cons d more =>
        obtain ⟨rfl, _⟩ := List.cons.inj hMore
        obtain ⟨start, hStart⟩ :=
          hPrompt.exists_eq_append hLong
        have hLast := congrArg List.getLast? hStart
        simp only [List.getLast?_append_cons,
          List.getLast?_singleton, Option.some.injEq] at hLast
        exact .inl hLast
  · cases more with
    | nil =>
        cases hMore
        exact .inr rfl
    | cons d more =>
        rcases more with _ | ⟨e, more⟩
        · cases hMore
        · cases more <;> cases hMore

/-
  A call of a prompt alone is not complete, whatever calls
  the prompt holds: a quote in the prompt comes after a
  backslash, and after the last one there is no other.
-/
theorem complete?_prompt
    {prompt : List Char}
    (hPrompt : IsEscaped prompt) :
    complete? (TypeForm.call "ai" (inQuotes prompt)) =
      none := by
  by_contra hSome
  obtain ⟨found, hFound⟩ :=
    Option.ne_none_iff_exists'.mp hSome
  obtain ⟨before, c, after, hText, hBefore, hAfter⟩ :=
    hasPrompt_of_complete? hFound
  have hCall : TypeForm.call "ai" (inQuotes prompt) =
      'a' :: 'i' :: '(' :: '"' :: (prompt ++ ['"', ')']) := by
    simp [TypeForm.call, inQuotes]
  rw [hCall] at hText
  rcases before with
    _ | ⟨_, _ | ⟨_, _ | ⟨_, _ | ⟨_, before⟩⟩⟩⟩
  · cases hText
  · cases hText
  · cases hText
    exact absurd hBefore (by decide)
  · simp only [List.cons_append, List.nil_append,
      List.cons.injEq] at hText
    rw [← hText.2.2.2.1] at hBefore
    exact absurd hBefore (by decide)
  · have hInner : prompt ++ ['"', ')'] =
        before ++ c :: '"' :: after := by
      simp only [List.cons_append, List.cons.injEq] at hText
      exact hText.2.2.2.2
    rcases eq_backslash_or_eq_of_isEscaped hPrompt hInner
      with rfl | rfl
    · exact absurd hBefore (by decide)
    · exact absurd hAfter (by decide)

end AiCall

end Blueprint

------------------------------------------------------------
-- Parts of Incomplete Calls
------------------------------------------------------------

namespace Blueprint

open Text

namespace AiCall

/- The closing bracket of a call is taken off. -/
theorem insideText_call
    {argument : List Char}
    (hLast : argument.getLast? ≠ some ')') :
    insideText (TypeForm.call "ai" argument) = argument := by
  have hCut : cutAround "ai(".toList
      (TypeForm.call "ai" argument) =
        some ([], argument ++ [')']) :=
    cutAround_append_self (List.cons_ne_nil _ _)
  have hTrim : trimEnd (argument ++ [')']) =
      argument ++ [')'] :=
    trimEnd_append_cons argument [] (by decide)
  rw [insideText, hCut]
  dsimp only
  rw [hTrim, dropEndWhile_eq_rdropWhile,
    List.rdropWhile_concat_pos _ _ _ (by decide),
    List.rdropWhile_eq_self_iff]
  intro hSome hClosing
  apply hLast
  rw [List.getLast?_eq_getLast_of_ne_nil hSome]
  simpa using hClosing

/- No text without a quote has a text in quotes. -/
theorem firstQuoted?_of_not_mem
    {text : List Char}
    (hText : '"' ∉ text) :
    firstQuoted? text = none := by
  induction text with
  | nil => rfl
  | cons c rest ih =>
      have hRest := ih fun hMem =>
        hText (List.mem_cons_of_mem _ hMem)
      have hNone : quoted? (c :: rest) = none := by
        by_contra hSome
        obtain ⟨found, hFound⟩ :=
          Option.ne_none_iff_exists'.mp hSome
        obtain ⟨after, hStart, _⟩ :=
          quoted?_eq_some_iff.mp hFound
        rw [hStart] at hText
        exact hText List.mem_cons_self
      rw [firstQuoted?, hNone]
      exact hRest

/- An input alone is read as such, with no prompt. -/
theorem ofText_input
    {input : List Char}
    (hInput : IsInput input) :
    ofText (TypeForm.call "ai" input) =
      ⟨String.ofList input, "", "boolean"⟩ := by
  have hQuote : '"' ∉ input :=
    fun hMem => (hInput.plain _ hMem).1 rfl
  have hLast : input.getLast? ≠ some ')' := by
    intro hClosing
    have hPlain := hInput.plain _
      (List.mem_of_getLast? hClosing)
    exact hPlain.2.2.2.1 rfl
  have hComma := cutAt_eq_none_of_not_mem hInput.comma
  rw [ofText, complete?_input hInput, Option.getD_none,
    partsOf, insideText_call hLast,
    firstQuoted?_of_not_mem hQuote, hComma]
  dsimp only [Option.getD_none, List.isEmpty_nil]
  rw [if_pos rfl, hInput.solid.trim_eq,
    trimMatches_of_not_mem hQuote]

/-
  What is taken for the input when there is none: the text
  of the prompt before its first comma, without blanks and
  quotes at its end.
-/
def promptHead (prompt : List Char) : List Char :=
  if ',' ∈ prompt then
    dropEndWhile (· == '"')
      (trimEnd (prompt.takeWhile (· != ',')))
  else
    []

variable {prompt : List Char}

/- The head of a prompt ends at a comma, if there is one. -/
theorem promptHead_append_cons
    {before : List Char}
    (after : List Char)
    (hBefore : ',' ∉ before) :
    promptHead (before ++ ',' :: after) =
      dropEndWhile (· == '"') (trimEnd before) := by
  have hText : ∀ c ∈ before, (c != ',') = true := by
    intro c hMem
    rw [bne_iff_ne]
    rintro rfl
    exact hBefore hMem
  rw [promptHead, if_pos (by simp),
    List.takeWhile_append_of_pos hText,
    List.takeWhile_cons_of_neg (by decide), List.append_nil]

/- No quote is unescaped at the start of a prompt. -/
theorem head?_ne_of_isEscaped
    (hPrompt : IsEscaped prompt) :
    prompt.head? ≠ some '"' := by
  intro hHead
  cases prompt with
  | nil => cases hHead
  | cons c rest =>
      cases hHead
      obtain ⟨start, hStart⟩ :=
        hPrompt.exists_eq_append
          (show _ = [] ++ '"' :: rest from rfl)
      simp at hStart

/- Only the first quote in front of a text is dropped. -/
theorem trimMatches_quote_cons
    {text : List Char}
    (hText : text.head? ≠ some '"') :
    trimMatches '"' ('"' :: text) =
      dropEndWhile (· == '"') text := by
  have hStart : ('"' :: text).dropWhile (· == '"') = text := by
    rw [List.dropWhile_cons_of_pos (by rfl)]
    cases text with
    | nil => rfl
    | cons c rest =>
        rw [List.dropWhile_cons_of_neg (by simpa using hText)]
  rw [trimMatches, hStart]

/- What is cut off in front of the first comma of a call. -/
theorem trimMatches_trim_quote_cons
    {before after : List Char}
    (hPrompt : IsEscaped (before ++ ',' :: after)) :
    trimMatches '"' (trim ('"' :: before)) =
      dropEndWhile (· == '"') (trimEnd before) := by
  have hTrim : trim ('"' :: before) = '"' :: trimEnd before :=
    trim_append_cons [] before (by decide)
  rw [hTrim]
  apply trimMatches_quote_cons
  intro hHead
  obtain ⟨rest, hBefore⟩ := trimEnd_isPrefix before
  apply head?_ne_of_isEscaped hPrompt
  cases hKept : trimEnd before with
  | nil =>
      rw [hKept] at hHead
      cases hHead
  | cons c kept =>
      rw [hKept] at hHead hBefore
      rw [← hBefore]
      exact hHead

/-
  A prompt alone is read as such. What stands before its
  first comma is taken for the input, though it is inside
  of the quotes.
-/
theorem ofText_prompt
    (hPrompt : IsEscaped prompt)
    (hSome : isBlankText prompt = false) :
    ofText (TypeForm.call "ai" (inQuotes prompt)) =
      ⟨String.ofList (promptHead prompt),
        String.ofList prompt, "boolean"⟩ := by
  have hLast : (inQuotes prompt).getLast? ≠ some ')' := by
    rw [inQuotes, List.getLast?_append]
    simp
  have hFirst : firstQuoted? (inQuotes prompt) =
      some prompt := by
    have hQuoted := quoted?_inQuotes [] hPrompt
    rw [List.append_nil] at hQuoted
    change quoted? ('"' :: _) = _ at hQuoted
    change firstQuoted? ('"' :: _) = _
    rw [firstQuoted?, hQuoted]
  have hFull : ¬ prompt.isEmpty = true := by
    intro hEmpty
    rw [List.isEmpty_iff.mp hEmpty] at hSome
    cases hSome
  rw [ofText, complete?_prompt hPrompt, Option.getD_none,
    partsOf, insideText_call hLast, hFirst]
  dsimp only [Option.getD_some]
  by_cases hComma : ',' ∈ prompt
  · obtain ⟨before, after, rfl, hBefore⟩ :=
      List.eq_append_cons_of_mem hComma
    have hWhole : inQuotes (before ++ ',' :: after) =
        ('"' :: before) ++ ',' :: (after ++ ['"']) := by
      simp [inQuotes]
    have hCut := cutAt_append_cons_of_not_mem
      (after ++ ['"'])
      (show ',' ∉ '"' :: before by simpa using hBefore)
    rw [hWhole, hCut, promptHead_append_cons after hBefore]
    dsimp only
    rw [trimMatches_trim_quote_cons hPrompt]
  · have hCut : cutAt (· == ',') (inQuotes prompt) = none :=
      cutAt_eq_none_of_not_mem
        (not_mem_inQuotes (by decide) hComma)
    rw [hCut, promptHead, if_neg hComma]
    dsimp only
    rw [if_neg hFull, trimMatches_of_not_mem List.not_mem_nil]

/-
  Dropping quotes leaves no text blank: a quote that is
  dropped comes after a backslash, which is not.
-/
theorem isBlankText_dropEndWhile_iff
    {before rest : List Char}
    (hPrompt : IsEscaped (before ++ rest)) :
    isBlankText (dropEndWhile (· == '"')
        (trimEnd before)) = true ↔
      isBlankText before = true := by
  have hBlanks : trimEnd before ++
      before.rtakeWhile isBlank = before :=
    List.rdropWhile_append_rtakeWhile
  have hQuotes : dropEndWhile (· == '"') (trimEnd before) ++
      (trimEnd before).rtakeWhile (· == '"') =
        trimEnd before :=
    List.rdropWhile_append_rtakeWhile
  rw [isBlankText_iff, isBlankText_iff]
  constructor
  · intro hKept
    cases hDropped :
        (trimEnd before).rtakeWhile (· == '"') with
    | nil =>
        rw [hDropped, List.append_nil] at hQuotes
        rw [hQuotes] at hKept
        intro c hMem
        rw [← hBlanks, List.mem_append] at hMem
        rcases hMem with hMem | hMem
        · exact hKept c hMem
        · exact List.mem_rtakeWhile_imp hMem
    | cons c quotes =>
        have hQuote : c = '"' := by
          have hMem : c ∈
              (trimEnd before).rtakeWhile (· == '"') := by
            rw [hDropped]
            exact List.mem_cons_self
          simpa using List.mem_rtakeWhile_imp hMem
        rw [hDropped, hQuote] at hQuotes
        rw [← hBlanks, ← hQuotes, List.append_assoc,
          List.append_assoc, List.cons_append] at hPrompt
        obtain ⟨start, hStart⟩ :=
          hPrompt.exists_eq_append rfl
        have hLast := hKept '\\' (by rw [hStart]; simp)
        exact absurd hLast (by decide)
  · intro hBlank c hMem
    apply hBlank
    rw [← hBlanks, ← hQuotes]
    simp [hMem]

/-
  What is taken for the input is blank exactly if the prompt
  has no comma or only blanks before its first one.
-/
theorem isBlankText_promptHead_iff
    (hPrompt : IsEscaped prompt) :
    isBlankText (promptHead prompt) = true ↔
      (',' ∈ prompt →
        isBlankText (prompt.takeWhile (· != ',')) =
          true) := by
  have hWhole : prompt.takeWhile (· != ',') ++
      prompt.dropWhile (· != ',') = prompt :=
    List.takeWhile_append_dropWhile
  by_cases hComma : ',' ∈ prompt
  · rw [← hWhole] at hPrompt
    rw [promptHead, if_pos hComma,
      isBlankText_dropEndWhile_iff hPrompt]
    exact (imp_iff_right hComma).symm
  · rw [promptHead, if_neg hComma]
    exact ⟨fun _ hMem => absurd hMem hComma, fun _ => rfl⟩

end AiCall

end Blueprint
