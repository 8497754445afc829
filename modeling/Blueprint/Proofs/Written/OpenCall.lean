import Blueprint.Proofs.Text.TopLevel
import Blueprint.Proofs.Written.Type

/-
  Types that start like a call: what is read when nothing is
  known of the text behind the opening parenthesis, and what
  when the parenthesis is never closed.

  Main definitions:
    * `CallWord`, `CallWord.opening`
    * `CallWord.Gives`
    * `IsUnclosed`

  Main statements:
    * `CallWord.gives_ofText`
    * `cutTopLevel_of_isUnclosed`
    * `FieldType.promptText_append`
    * `FieldType.ofText_ai_of_plain`
-/

------------------------------------------------------------
-- Openings of Calls
------------------------------------------------------------

namespace Blueprint

open Text

/- The words of the types that are written as calls. -/
inductive CallWord where
| enum
| ai
| computed
deriving DecidableEq, Repr

namespace CallWord

/- The word itself. -/
def word : CallWord → List Char
| .enum => "enum".toList
| .ai => "ai".toList
| .computed => "computed".toList

/- The word with the parenthesis behind it. -/
def opening (w : CallWord) : List Char :=
  w.word ++ ['(']

/- The word is a run of letters. -/
theorem isIdentifier_word (w : CallWord) :
    isIdentifier w.word = true := by
  cases w <;> decide

end CallWord

end Blueprint

------------------------------------------------------------
-- Reading Calls
------------------------------------------------------------

namespace Blueprint

open Text

/- What is enclosed behind an opening ends with a mark. -/
theorem enclosed?_opening_append
    (opening closing rest : List Char) :
    enclosed? opening closing (opening ++ rest) =
      stripEnd closing rest := by
  have hStart : stripStart opening (opening ++ rest) =
      some rest :=
    stripStart_eq_some_iff.mpr rfl
  rw [enclosed?, hStart, Option.bind_some]

/- There is no mark to strip from the end of other texts. -/
theorem stripEnd_eq_none_iff
    {mark text : List Char} :
    stripEnd mark text = none ↔ ¬ mark <:+ text := by
  rw [Option.eq_none_iff_forall_ne_some]
  constructor
  · rintro hNone ⟨rest, rfl⟩
    exact hNone rest (stripEnd_eq_some_iff.mpr rfl)
  · intro hText rest hStrip
    exact hText ⟨rest, (stripEnd_eq_some_iff.mp hStrip).symm⟩

namespace FieldType

/- A text that opens a call is no scalar type. -/
theorem readScalar?_opening
    (w : CallWord)
    (rest : List Char) :
    readScalar? (w.opening ++ rest) = none := by
  have hMem : '(' ∈ w.opening ++ rest := by
    simp [CallWord.opening]
  exact readScalar?_eq_none hMem (by decide)

/- Without its last parenthesis it is no relationship. -/
theorem readRelationship?_opening
    {rest : List Char}
    (w : CallWord)
    (hEnd : ¬ [')'] <:+ rest) :
    readRelationship? (w.opening ++ rest) = none := by
  have hText : w.opening ++ rest = w.word ++ '(' :: rest := by
    simp [CallWord.opening]
  have hParenthesis : isIdentifierChar '(' = false := by
    decide
  have hRun := takeWhile_identifier_append rest
    (forall_isIdentifierChar w.isIdentifier_word) hParenthesis
  have hStart : trimStart ('(' :: rest) = ['('] ++ rest :=
    trimStart_cons (by decide)
  unfold readRelationship?
  dsimp only
  rw [hText, hRun.1, hRun.2, hStart,
    enclosed?_opening_append, stripEnd_eq_none_iff.mpr hEnd]

/- A text that opens a call is no list of an entity. -/
theorem readListOf?_opening
    (w : CallWord)
    (rest : List Char) :
    readListOf? (w.opening ++ rest) = none := by
  cases w <;> rfl

/- Neither values nor an expression without the last mark. -/
theorem ofText_malformed
    {w : CallWord}
    {rest : List Char}
    (hWord : w ≠ .ai)
    (hEnd : ¬ [')'] <:+ rest) :
    ofText (w.opening ++ rest) =
      .unrecognized (String.ofList (w.opening ++ rest)) := by
  have hEnum : readEnum? (w.opening ++ rest) = none := by
    cases w with
    | enum =>
        have hInner := enclosed?_opening_append
          (CallWord.opening .enum) [')'] rest
        rw [stripEnd_eq_none_iff.mpr hEnd] at hInner
        exact congrArg (Option.map _) hInner
    | ai | computed => rfl
  have hAi : readAi? (w.opening ++ rest) = none := by
    cases w with
    | ai => exact absurd rfl hWord
    | enum | computed => rfl
  have hComputed :
      readComputed? (w.opening ++ rest) = none := by
    cases w with
    | computed =>
        have hInner := enclosed?_opening_append
          (CallWord.opening .computed) [')'] rest
        rw [stripEnd_eq_none_iff.mpr hEnd] at hInner
        exact congrArg (Option.map _) hInner
    | enum | ai => rfl
  rw [ofText_eq, readScalar?_opening, hEnum, hAi, hComputed,
    readRelationship?_opening w hEnd, readListOf?_opening]
  rfl

/- Whatever is behind `ai(` is a prompt. -/
theorem ofText_ai_opening (rest : List Char) :
    ofText (CallWord.opening .ai ++ rest) =
      .ai (String.ofList
        (promptText (CallWord.opening .ai ++ rest))) := by
  have hEnum :
      readEnum? (CallWord.opening .ai ++ rest) = none :=
    rfl
  have hAi : readAi? (CallWord.opening .ai ++ rest) =
      some (.ai (String.ofList
        (promptText (CallWord.opening .ai ++ rest)))) :=
    rfl
  rw [ofText_eq, readScalar?_opening, hEnum, hAi]
  rfl

end FieldType

end Blueprint

------------------------------------------------------------
-- Prompts without Quotes
------------------------------------------------------------

namespace Blueprint

open Text

/- Only what starts with an opening has one to drop. -/
theorem dropAiOpenings_of_not_isPrefix
    {text : List Char}
    (hText : ¬ "ai(".toList <+: text) :
    dropAiOpenings text = text := by
  fun_cases dropAiOpenings text with
  | case1 rest => exact absurd ⟨rest, rfl⟩ hText
  | case2 => rfl

/- What is left is the end of the text. -/
theorem dropAiOpenings_isSuffix (text : List Char) :
    dropAiOpenings text <:+ text := by
  fun_induction dropAiOpenings text with
  | case1 rest ih =>
      exact ih.trans (List.suffix_append "ai(".toList rest)
  | case2 text _ => exact List.suffix_refl text

/- A text that does not end with a mark loses none there. -/
theorem dropEndWhile_of_not_isSuffix
    {mark : Char}
    {text : List Char}
    (hText : ¬ [mark] <:+ text) :
    dropEndWhile (· == mark) text = text := by
  rw [dropEndWhile_eq_rdropWhile, List.rdropWhile_eq_self_iff]
  intro hSome hLast
  apply hText
  rw [beq_iff_eq] at hLast
  refine ⟨text.dropLast, ?_⟩
  rw [← hLast, List.dropLast_append_getLast]

namespace FieldType

/- A prompt without quotes is what the delimiters leave. -/
theorem promptText_append
    {text : List Char}
    (hQuote : '"' ∉ text) :
    promptText (CallWord.opening .ai ++ text) =
      trim (dropEndWhile (· == ')')
        (dropAiOpenings text)) := by
  have hStrip : stripStart "ai(".toList
      (CallWord.opening .ai ++ text) = some text :=
    stripStart_eq_some_iff.mpr rfl
  have hSole : soleQuoted? text = none := by
    have hStart : quoted? (trimStart text) = none := by
      rw [Option.eq_none_iff_forall_ne_some]
      intro found hFound
      obtain ⟨rest, hRest, _⟩ := quoted?_eq_some_iff.mp hFound
      have hMem : '"' ∈ trimStart text := by
        rw [hRest]
        exact List.mem_cons_self
      exact hQuote ((List.dropWhile_sublist _).subset hMem)
    unfold soleQuoted?
    rw [hStart]
  have hInner : '"' ∉ trim (dropEndWhile (· == ')')
      (dropAiOpenings text)) := by
    intro hMem
    have hClosed := (trim_isInfix _).subset hMem
    rw [dropEndWhile_eq_rdropWhile] at hClosed
    have hOpened := (List.rdropWhile_prefix _ _).subset hClosed
    exact hQuote
      ((dropAiOpenings_isSuffix text).subset hOpened)
  have hOpening :
      dropAiOpenings (CallWord.opening .ai ++ text) =
        dropAiOpenings text :=
    rfl
  rw [promptText, hStrip, Option.bind_some, hSole]
  dsimp only
  rw [hOpening, trimMatches_of_not_mem hInner, trim_trim]

/- All of a plain text is the prompt if it is not closed. -/
theorem promptText_unclosed
    {text : List Char}
    (hQuote : '"' ∉ text)
    (hStart : ¬ "ai(".toList <+: text)
    (hEnd : ¬ [')'] <:+ text) :
    promptText (CallWord.opening .ai ++ text) = trim text := by
  rw [promptText_append hQuote,
    dropAiOpenings_of_not_isPrefix hStart,
    dropEndWhile_of_not_isSuffix hEnd]

/- The parenthesis that closes a plain text is dropped. -/
theorem promptText_closed
    {text : List Char}
    (hQuote : '"' ∉ text)
    (hStart : ¬ "ai(".toList <+: text)
    (hEnd : ¬ [')'] <:+ text) :
    promptText (TypeForm.call "ai" text) = trim text := by
  have hCall : TypeForm.call "ai" text =
      CallWord.opening .ai ++ (text ++ [')']) :=
    rfl
  have hClosedQuote : '"' ∉ text ++ [')'] := by
    simp [hQuote]
  have hClosedStart : ¬ "ai(".toList <+: text ++ [')'] := by
    rw [List.prefix_concat_iff]
    rintro (hWhole | hPrefix)
    · have hLast := congrArg List.getLast? hWhole
      rw [List.getLast?_concat] at hLast
      cases hLast
    · exact hStart hPrefix
  have hDrop : dropEndWhile (· == ')') (text ++ [')']) =
      dropEndWhile (· == ')') text := by
    simp [dropEndWhile]
  rw [hCall, promptText_append hClosedQuote,
    dropAiOpenings_of_not_isPrefix hClosedStart, hDrop,
    dropEndWhile_of_not_isSuffix hEnd]

/-
  A call of a trimmed text without quotes is a prompt of just
  this text, if it does not start or end like a call.
-/
theorem ofText_call_of_plain
    {text : List Char}
    (hTrim : trim text = text)
    (hQuote : '"' ∉ text)
    (hStart : ¬ "ai(".toList <+: text)
    (hEnd : ¬ [')'] <:+ text) :
    ofText (TypeForm.call "ai" text) =
      .ai (String.ofList text) := by
  have hCall : TypeForm.call "ai" text =
      CallWord.opening .ai ++ (text ++ [')']) :=
    rfl
  have hPrompt := promptText_closed hQuote hStart hEnd
  rw [hTrim, hCall] at hPrompt
  rw [hCall, ofText_ai_opening, hPrompt]

end FieldType

end Blueprint

------------------------------------------------------------
-- Unclosed Calls
------------------------------------------------------------

namespace Blueprint

open Text

instance (text : List Char) : Decidable (IsLevel text) :=
  decidable_of_iff _ isTopLevel_after_iff

/-
  Nowhere behind an opening parenthesis have as many brackets
  been closed as opened, outside of quotes: the parenthesis
  is never closed.
-/
def IsUnclosed (text : List Char) : Prop :=
  ∀ part ∈ text.inits, ¬ IsLevel ('(' :: part)

instance (text : List Char) : Decidable (IsUnclosed text) :=
  inferInstanceAs (Decidable (∀ _ ∈ _, _))

/- A word in front does not change what is level. -/
theorem isLevel_identifier_append
    {word : List Char}
    (text : List Char)
    (hWord : isIdentifier word = true) :
    IsLevel (word ++ text) ↔ IsLevel text := by
  have hScan : Scans ',' .outermost word .outermost :=
    scans_identifier 0 hWord (by decide)
  rw [← isTopLevel_after_iff, Nesting.after_append,
    hScan.after_eq, isTopLevel_after_iff]

/- A call that is never closed has no comma at the top level. -/
theorem cutTopLevel_of_isUnclosed
    {text : List Char}
    (w : CallWord)
    (hText : IsUnclosed text) :
    cutTopLevel ',' (w.opening ++ text) = none := by
  apply (firstCut_cutTopLevel ',' _).unique
  apply FirstCut.absent
  intro before after hPlace hLevel
  have hBehind : ∃ part,
      before = w.opening ++ part ∧ part <+: text := by
    rcases List.append_eq_append_iff.mp hPlace with
      ⟨part, hBefore, hRest⟩ | ⟨part, hWord, hMark⟩
    · exact ⟨part, hBefore, ⟨_, hRest.symm⟩⟩
    · -- The comma would be one of the opening.
      cases part with
      | nil =>
          rw [List.append_nil] at hWord
          exact ⟨[], by rw [hWord, List.append_nil],
            List.nil_prefix⟩
      | cons c part =>
          obtain ⟨rfl, _⟩ := List.cons.inj hMark
          have hComma : ',' ∈ w.opening := by
            rw [hWord]
            simp
          exact absurd hComma (by cases w <;> decide)
  obtain ⟨part, rfl, hPart⟩ := hBehind
  rw [CallWord.opening, List.append_assoc,
    isLevel_identifier_append _ w.isIdentifier_word] at hLevel
  exact hText part ((List.mem_inits _ _).mpr hPart) hLevel

end Blueprint
