import Blueprint.Proofs.Sound.Part

/-
  Steps of flows that were read: they have a trimmed
  description that is not empty, and an action if and only
  if an AI carries them out.

  Main definitions:
    * `FlowStep.strings`, `Flow.strings`
    * `FlowStep.IsSound`

  Main statements:
    * `FlowStep.isSound_of_ofLine`
    * `FlowStep.subset_of_ofLine`
    * `Flow.isPartOf_of_ofBlock`
-/

------------------------------------------------------------
-- Steps of Flows
------------------------------------------------------------

namespace Blueprint

open Text

namespace FlowStep

/- The texts that a step of a flow holds. -/
def strings (step : FlowStep) : List String :=
  step.description :: step.action.toList

/- What holds of a step that was read. -/
structure IsSound (step : FlowStep) : Prop where
  described : step.description ≠ ""
  trimmed :
    trim step.description.toList = step.description.toList
  ai_iff : step.ai = true ↔ step.action.isSome = true

/- What is left after blanks is nothing or has no blanks first. -/
theorem eq_nil_of_skipBlanks?
    {text rest : List Char}
    (h : skipBlanks? text = some rest)
    (hBlank : trim rest = []) :
    rest = [] := by
  unfold skipBlanks? at h
  split at h
  · cases h
  · rename_i more
    split at h
    · cases h
      rw [trim_trimStart, trim_eq_nil_iff] at hBlank
      rwa [trimStart, List.dropWhile_eq_nil_iff]
    · cases h

/- The description of a step is a trimmed part of its line. -/
theorem trimmed_of_parts?
    {text digits description : List Char}
    (h : parts? text = some (digits, description)) :
    description ≠ [] ∧ trim description = description ∧
      description ⊆ text := by
  rcases Option.bind_eq_some_iff.mp h with
    ⟨afterDot, hDot, h⟩
  rcases Option.bind_eq_some_iff.mp h with
    ⟨rest, hBlank, h⟩
  split at h
  · cases h
  · rename_i hSome
    cases h
    refine ⟨?_, trim_trim rest, ?_⟩
    · intro hNil
      exact hSome (by simp [eq_nil_of_skipBlanks? hBlank hNil])
    · have hRest := List.Subset.trans
        (subset_of_skipBlanks? hBlank)
        (subset_of_stripStart hDot)
      exact List.Subset.trans (trim_subset rest)
        (List.Subset.trans hRest
          (List.dropWhile_sublist _).subset)

theorem subset_of_aiAction?
    {text action : List Char}
    (h : aiAction? text = some action) :
    action ⊆ text := by
  unfold aiAction? at h
  split at h
  · rename_i a i mark rest
    split at h
    · cases h
      exact List.Subset.trans (trim_subset rest)
        (List.subset_append_right [a, i, mark] rest)
    · cases h
  · cases h

variable {file : String}
variable {line : Line}
variable {step : FlowStep}

/- A step is made of the description that its line writes. -/
theorem exists_description_of_ofLine
    (h : ofLine file line = .ok step) :
    ∃ order description,
      description ≠ [] ∧ trim description = description ∧
        description ⊆ line.text ∧
          step = ofParts (line.location file) order
            description := by
  have hText := eq_ok_of_blame h
  unfold ofText at hText
  split at hText
  · cases hText
  · rename_i digits description hParts
    rcases trimmed_of_parts? hParts with
      ⟨hSome, hTrim, hPart⟩
    split at hText
    · cases hText
    · rename_i order _
      cases hText
      exact ⟨order, description, hSome, hTrim, hPart, rfl⟩

theorem isSound_of_ofLine
    (h : ofLine file line = .ok step) :
    step.IsSound := by
  rcases exists_description_of_ofLine h with
    ⟨order, description, hSome, hTrim, _, rfl⟩
  constructor
  case described =>
      rw [ofParts, Ne, String.ofList_eq_empty_iff]
      exact hSome
  case trimmed =>
      rw [ofParts, String.toList_ofList, hTrim]
  case ai_iff => simp [ofParts]

theorem subset_of_ofLine
    (h : ofLine file line = .ok step) :
    ∀ s ∈ step.strings, s.toList ⊆ line.text := by
  rcases exists_description_of_ofLine h with
    ⟨order, description, _, _, hPart, rfl⟩
  rw [strings, List.forall_mem_cons, ofParts,
    String.toList_ofList]
  refine ⟨hPart, ?_⟩
  intro s hMem
  rw [Option.mem_toList] at hMem
  rcases Option.map_eq_some_iff.mp hMem with
    ⟨action, hAction, rfl⟩
  rw [String.toList_ofList]
  exact List.Subset.trans (subset_of_aiAction? hAction) hPart

end FlowStep

end Blueprint

------------------------------------------------------------
-- Flows
------------------------------------------------------------

namespace Blueprint

/- The texts that a flow holds. -/
def Flow.strings (f : Flow) : List String :=
  f.name :: f.steps.flatMap FlowStep.strings

theorem Flow.isPartOf_of_ofBlock
    {file : String}
    {rest : List Char}
    {b : Block}
    {f : Flow}
    (h : Flow.ofBlock file rest b = .ok f)
    (hRest : rest ⊆ b.head.text) :
    ∀ s ∈ f.strings, IsPartOf b.lines s := by
  rcases exists_of_flatBlock h with
    ⟨name, steps, hName, hMap, rfl⟩
  rw [strings, List.forall_mem_cons]
  exact ⟨isPartOf_of_readName hRest hName,
    isPartOf_of_forall₂ (forall₂_of_mapM hMap)
      fun _ _ => FlowStep.subset_of_ofLine⟩

end Blueprint
