import Blueprint.Proofs.Sound.Part

/-
  Rules that were read: their descriptions are trimmed,
  neither an action nor a plain condition is there but
  empty, and every question to an AI expects a yes or no.

  Main definitions:
    * `AiCall.strings`, `Condition.strings`, `Rule.strings`
    * `Condition.IsSound`, `Rule.IsSound`

  Main statements:
    * `AiCall.subset_of_mem_strings`
    * `Rule.isSound_of_ofBlock`
    * `Rule.isPartOf_of_ofBlock`
-/

------------------------------------------------------------
-- Questions to an AI
------------------------------------------------------------

namespace Blueprint

open Text

namespace AiCall

variable {text input prompt : List Char}

theorem subset_of_arguments?
    (h : arguments? text = some (input, prompt)) :
    input ⊆ text ∧ prompt ⊆ text := by
  have hBefore :=
    (List.takeWhile_sublist (l := text)
      fun c => !endsInput c).subset
  have hBehind :=
    (List.dropWhile_sublist (l := text)
      fun c => !endsInput c).subset
  unfold arguments? at h
  dsimp only at h
  split at h
  · cases h
  · rename_i afterComma hRest _
    rw [hRest] at hBehind
    split at h
    · cases h
    · rename_i hQuoted
      split at h
      · cases h
        refine ⟨List.Subset.trans (trim_subset _) hBefore, ?_⟩
        exact List.Subset.trans (subset_of_quoted? hQuoted).1
          (List.Subset.trans (trimStart_subset afterComma)
            (List.Subset.trans
              (List.subset_cons_self ',' afterComma) hBehind))
      · cases h
  · cases h

/- What a complete call holds is a part of the text. -/
theorem subset_of_complete?
    (h : complete? text = some (input, prompt)) :
    input ⊆ text ∧ prompt ⊆ text := by
  induction text with
  | nil => cases h
  | cons c rest ih =>
      unfold complete? at h
      split at h
      · rename_i hCall
        cases h
        rcases Option.bind_eq_some_iff.mp hCall with
          ⟨inner, hStart, hArguments⟩
        have hInner := subset_of_stripStart hStart
        have hParts := subset_of_arguments? hArguments
        exact ⟨List.Subset.trans hParts.1 hInner,
          List.Subset.trans hParts.2 hInner⟩
      · exact ⟨List.subset_cons_of_subset c (ih h).1,
          List.subset_cons_of_subset c (ih h).2⟩

theorem insideText_subset (text : List Char) :
    insideText text ⊆ text := by
  unfold insideText
  dsimp only
  apply List.Subset.trans (dropEndWhile_subset _ _)
  apply List.Subset.trans (trimEnd_subset _)
  split
  · rename_i hAround
    exact subset_of_cutAround hAround
  · exact List.Subset.refl text

/- What an incomplete call holds is a part of the text. -/
theorem partsOf_subset (text : List Char) :
    (partsOf text).1 ⊆ text ∧ (partsOf text).2 ⊆ text := by
  have hInside := insideText_subset text
  have hPrompt :
      (firstQuoted? (insideText text)).getD [] ⊆ text := by
    cases hQuoted : firstQuoted? (insideText text) with
    | none => exact List.nil_subset text
    | some body =>
        exact List.Subset.trans
          (subset_of_firstQuoted? hQuoted) hInside
  refine ⟨?_, hPrompt⟩
  apply List.Subset.trans (trimMatches_subset _ _)
  split
  · rename_i hComma
    exact List.Subset.trans (trim_subset _)
      (List.Subset.trans (subset_of_cutAt hComma).1 hInside)
  · split
    · exact List.Subset.trans (trim_subset _) hInside
    · exact List.nil_subset text

/- The texts that a call holds. -/
def strings (call : AiCall) : List String :=
  [call.input, call.prompt, call.expectedOutput]

/- A call holds parts of the text, and what it expects. -/
theorem subset_of_mem_strings
    {s : String}
    (h : s ∈ (ofText text).strings) :
    s.toList ⊆ text ∨ s = "boolean" := by
  have hParts : ((complete? text).getD (partsOf text)).1 ⊆
        text ∧
      ((complete? text).getD (partsOf text)).2 ⊆ text := by
    cases hCall : complete? text with
    | none => exact partsOf_subset text
    | some found => exact subset_of_complete? hCall
  simp only [strings, ofText, List.mem_cons,
    List.not_mem_nil, or_false] at h
  rcases h with rfl | rfl | rfl
  · left
    rw [String.toList_ofList]
    exact hParts.1
  · left
    rw [String.toList_ofList]
    exact hParts.2
  · exact .inr rfl

end AiCall

end Blueprint

------------------------------------------------------------
-- Conditions and Rules
------------------------------------------------------------

namespace Blueprint

open Text

namespace Condition

/- The texts that a condition holds. -/
def strings : Condition → List String
| .plain text => [text]
| .ai call => call.strings

/- What holds of a condition that was read. -/
structure IsSound (condition : Condition) : Prop where
  plain : condition ≠ .plain ""
  expected : ∀ call, condition.aiCall? = some call →
    call.expectedOutput = "boolean"

variable {text : List Char}
variable {condition : Condition}

theorem isSound_of_ofText?
    (h : ofText? text = some condition) :
    condition.IsSound := by
  unfold ofText? at h
  split at h
  · cases h
  · rename_i hSome
    split at h
    · cases h
      refine ⟨nofun, ?_⟩
      intro call hCall
      cases hCall
      rfl
    · cases h
      refine ⟨?_, nofun⟩
      intro hEmpty
      rw [plain.injEq, String.ofList_eq_empty_iff] at hEmpty
      exact hSome (by rw [hEmpty]; rfl)

theorem subset_of_ofText?
    (h : ofText? text = some condition) :
    ∀ s ∈ condition.strings,
      s.toList ⊆ text ∨ s = "boolean" := by
  unfold ofText? at h
  split at h
  · cases h
  · split at h
    · cases h
      exact fun s => AiCall.subset_of_mem_strings
    · cases h
      rw [strings, List.forall_mem_singleton,
        String.toList_ofList]
      exact .inl (List.Subset.refl text)

end Condition

namespace Rule

/- The texts that a rule holds. -/
def strings (r : Rule) : List String :=
  r.description ::
    r.condition.toList.flatMap Condition.strings ++
      r.action.toList

/- What holds of a rule that was read. -/
structure IsSound (r : Rule) : Prop where
  described :
    trim r.description.toList = r.description.toList
  condition : ∀ condition, r.condition = some condition →
    condition.IsSound
  action : r.action ≠ some ""

variable {file : String}
variable {rest : List Char}
variable {b : Block}
variable {r : Rule}

/- Both sides of the arrow are parts of the text. -/
theorem splitArrow_subset (text : List Char) :
    (splitArrow text).1 ⊆ text ∧
      (splitArrow text).2 ⊆ text := by
  unfold splitArrow
  split
  · rename_i hArrow
    have hParts := subset_of_cutTopLevel hArrow
    exact ⟨List.Subset.trans (trim_subset _) hParts.1,
      List.Subset.trans (trim_subset _) hParts.2⟩
  · exact ⟨List.Subset.refl text, List.nil_subset text⟩

/-
  A body is empty, or its line has the parts that the
  condition and the action are read from.
-/
theorem exists_parts_of_partsOfBody
    {body : List Line}
    {condition : Option Condition}
    {action : Option String}
    (h : partsOfBody file body = .ok (condition, action)) :
    (condition = none ∧ action = none) ∨
      ∃ line ∈ body, ∃ before after,
        before ⊆ line.text ∧ after ⊆ line.text ∧
          condition = Condition.ofText? before ∧
            action = nonempty? after := by
  unfold partsOfBody at h
  split at h
  · cases h
    exact .inl ⟨rfl, rfl⟩
  · rename_i line
    right
    refine ⟨line, List.mem_cons_self, ?_⟩
    have hText := eq_ok_of_blame h
    unfold partsOfText at hText
    split at hText
    · cases hText
    · rename_i inner hIf
      have hInner := List.Subset.trans (trim_subset inner)
        (subset_of_stripStart hIf)
      cases hText
      have hParts := splitArrow_subset (trim inner)
      exact ⟨_, _, List.Subset.trans hParts.1 hInner,
        List.Subset.trans hParts.2 hInner, rfl, rfl⟩
  · cases h

/- A rule is made of its head and the parts of its body. -/
theorem exists_body_of_ofBlock
    (h : ofBlock file rest b = .ok r) :
    partsOfBody file b.body = .ok (r.condition, r.action) ∧
      r.description = String.ofList (trim (unquoted rest)) ∧
        r.location = b.head.location file := by
  rcases exists_of_bind_eq_ok h with
    ⟨⟨condition, action⟩, hBody, hRule⟩
  cases hRule
  exact ⟨hBody, rfl, rfl⟩

theorem isSound_of_ofBlock
    (h : ofBlock file rest b = .ok r) :
    r.IsSound := by
  rcases exists_body_of_ofBlock h with ⟨hBody, hHead, _⟩
  have hParts := exists_parts_of_partsOfBody hBody
  constructor
  case described =>
      rw [hHead, String.toList_ofList, trim_trim]
  case condition =>
      intro condition hCondition
      rcases hParts with
        ⟨hNone, _⟩ | ⟨_, _, before, _, _, _, hRead, _⟩
      · rw [hNone] at hCondition
        cases hCondition
      · rw [hRead] at hCondition
        exact Condition.isSound_of_ofText? hCondition
  case action =>
      rcases hParts with
        ⟨_, hNone⟩ | ⟨_, _, _, after, _, _, _, hRead⟩
      · rw [hNone]
        exact nofun
      · rw [hRead]
        exact nonempty?_ne_some_empty after

theorem isPartOf_of_ofBlock
    (h : ofBlock file rest b = .ok r)
    (hRest : rest ⊆ b.head.text) :
    ∀ s ∈ r.strings, IsPartOf b.lines s ∨ s = "boolean" := by
  rcases exists_body_of_ofBlock h with ⟨hBody, hHead, _⟩
  have hParts := exists_parts_of_partsOfBody hBody
  rw [strings, List.cons_append, List.forall_mem_cons,
    List.forall_mem_append]
  refine ⟨.inl ⟨b.head, b.head_mem_lines, ?_⟩, ?_, ?_⟩
  · rw [hHead, String.toList_ofList]
    exact List.Subset.trans (trim_subset _)
      (List.Subset.trans (unquoted_subset rest) hRest)
  · intro s hMem
    rcases List.mem_flatMap.mp hMem with
      ⟨condition, hCondition, hString⟩
    rw [Option.mem_toList] at hCondition
    rcases hParts with
      ⟨hNone, _⟩ | ⟨line, hLine, before, _, hPart, _, hRead, _⟩
    · rw [hNone] at hCondition
      cases hCondition
    · rw [hRead] at hCondition
      apply (Condition.subset_of_ofText? hCondition s
        hString).imp_left
      intro hSubset
      exact ⟨line, b.body_subset_lines hLine,
        List.Subset.trans hSubset hPart⟩
  · intro s hMem
    rw [Option.mem_toList] at hMem
    rcases hParts with
      ⟨_, hNone⟩ | ⟨line, hLine, _, after, _, hPart, _, hRead⟩
    · rw [hNone] at hMem
      cases hMem
    · rw [hRead] at hMem
      exact .inl ⟨line, b.body_subset_lines hLine,
        List.Subset.trans (subset_of_nonempty? hMem) hPart⟩

end Rule

end Blueprint
