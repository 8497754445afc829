import Blueprint.Proofs.Text.TopLevel

/-
  What is cut out of a text has no other characters than the
  text: its trimmed or unquoted part, the parts on both
  sides of a mark, and the items between its commas.

  Main statements:
    * `trim_subset`, `trimMatches_subset`
    * `subset_of_cutAt`, `subset_of_cutTopLevel`
    * `subset_of_mem_topLevelItems`
    * `subset_of_quoted?`, `unquoted_subset`
-/

------------------------------------------------------------
-- Trimmed Texts
------------------------------------------------------------

namespace Blueprint

namespace Text

variable {text : List Char}

theorem dropEndWhile_subset
    (p : Char → Bool)
    (text : List Char) :
    dropEndWhile p text ⊆ text := by
  intro c hMem
  rw [dropEndWhile, List.mem_reverse] at hMem
  exact List.mem_reverse.mp
    ((List.dropWhile_sublist p).subset hMem)

theorem trimStart_subset (text : List Char) :
    trimStart text ⊆ text :=
  (List.dropWhile_sublist isBlank).subset

theorem trimEnd_subset (text : List Char) :
    trimEnd text ⊆ text :=
  dropEndWhile_subset isBlank text

theorem trim_subset (text : List Char) :
    trim text ⊆ text :=
  List.Subset.trans (trimEnd_subset _) (trimStart_subset text)

theorem trimMatches_subset
    (mark : Char)
    (text : List Char) :
    trimMatches mark text ⊆ text :=
  List.Subset.trans (dropEndWhile_subset _ _)
    (List.dropWhile_sublist _).subset

theorem subset_of_skipBlanks?
    {rest : List Char}
    (h : skipBlanks? text = some rest) :
    rest ⊆ text := by
  unfold skipBlanks? at h
  split at h
  · cases h
  · rename_i c more
    split at h
    · cases h
      exact List.subset_cons_of_subset c (trimStart_subset more)
    · cases h

end Text

end Blueprint

------------------------------------------------------------
-- Texts Cut at Marks
------------------------------------------------------------

namespace Blueprint

namespace Text

variable {text before after : List Char}

theorem subset_of_stripStart
    {mark rest : List Char}
    (h : stripStart mark text = some rest) :
    rest ⊆ text := by
  rw [stripStart_eq_some_iff.mp h]
  exact List.subset_append_right mark rest

theorem subset_of_stripEnd
    {mark rest : List Char}
    (h : stripEnd mark text = some rest) :
    rest ⊆ text := by
  rw [stripEnd_eq_some_iff.mp h]
  exact List.subset_append_left rest mark

/- Both sides of a mark in a text are parts of it. -/
theorem subset_of_eq_append_cons
    {c : Char}
    (h : text = before ++ c :: after) :
    before ⊆ text ∧ after ⊆ text := by
  rw [h]
  exact ⟨List.subset_append_left _ _,
    List.Subset.trans (List.subset_cons_self c after)
      (List.subset_append_right before _)⟩

theorem subset_of_cutAt
    {p : Char → Bool}
    (h : cutAt p text = some (before, after)) :
    before ⊆ text ∧ after ⊆ text := by
  rcases eq_append_of_cutAt h with ⟨_, _, hText, _⟩
  exact subset_of_eq_append_cons hText

theorem subset_of_cutTopLevel
    {target : Char}
    (h : cutTopLevel target text = some (before, after)) :
    before ⊆ text ∧ after ⊆ text := by
  have hCut := firstCut_cutTopLevel target text
  rw [h] at hCut
  cases hCut with
  | found hPlace _ _ => exact subset_of_eq_append_cons hPlace

theorem subset_of_cutAround
    {mark : List Char}
    (h : cutAround mark text = some (before, after)) :
    after ⊆ text := by
  induction text generalizing before with
  | nil => cases h
  | cons c rest ih =>
      unfold cutAround at h
      split at h
      · rename_i hStrip
        cases h
        exact subset_of_stripStart hStrip
      · rcases Option.map_eq_some_iff.mp h with
          ⟨⟨first, second⟩, hRest, hSame⟩
        cases hSame
        exact List.subset_cons_of_subset c (ih hRest)

/- Pieces between top-level commas are parts of the text. -/
theorem subset_of_mem_topLevelPiecesFrom
    {n : Nesting}
    {piece : List Char}
    (h : piece ∈ topLevelPiecesFrom n text) :
    piece ⊆ text := by
  induction text generalizing n piece with
  | nil =>
      rw [topLevelPiecesFrom, List.mem_singleton] at h
      rw [h]
      exact List.nil_subset _
  | cons c rest ih =>
      unfold topLevelPiecesFrom at h
      split at h
      · rcases List.mem_cons.mp h with rfl | hMem
        · exact List.nil_subset _
        · exact List.subset_cons_of_subset c (ih hMem)
      · split at h
        · rw [List.mem_singleton] at h
          rw [h]
          exact List.cons_subset_cons c (List.nil_subset _)
        · rename_i first more hPieces
          have hFirst : first ⊆ rest := by
            apply ih
            rw [hPieces]
            exact List.mem_cons_self
          have hMore : ∀ other ∈ more, other ⊆ rest := by
            intro other hMem
            apply ih
            rw [hPieces]
            exact List.mem_cons_of_mem _ hMem
          rcases List.mem_cons.mp h with rfl | hMem
          · exact List.cons_subset_cons c hFirst
          · exact List.subset_cons_of_subset c
              (hMore piece hMem)

theorem subset_of_mem_topLevelItems
    {item : List Char}
    (h : item ∈ topLevelItems text) :
    item ⊆ text := by
  unfold topLevelItems at h
  split at h
  · cases h
  · rcases List.mem_map.mp h with ⟨piece, hPiece, rfl⟩
    exact List.Subset.trans (trim_subset piece)
      (subset_of_mem_topLevelPiecesFrom hPiece)

end Text

end Blueprint

------------------------------------------------------------
-- Quoted Texts
------------------------------------------------------------

namespace Blueprint

namespace Text

variable {text body after : List Char}

theorem subset_of_quoted?
    (h : quoted? text = some (body, after)) :
    body ⊆ text ∧ after ⊆ text := by
  unfold quoted? at h
  split at h
  · rename_i rest
    have hRest :=
      subset_of_eq_append_cons (eq_append_of_quotedBody? h)
    exact ⟨List.subset_cons_of_subset _ hRest.1,
      List.subset_cons_of_subset _ hRest.2⟩
  · cases h

theorem subset_of_firstQuoted?
    (h : firstQuoted? text = some body) :
    body ⊆ text := by
  induction text with
  | nil => cases h
  | cons c rest ih =>
      unfold firstQuoted? at h
      split at h
      · rename_i hQuoted
        cases h
        exact (subset_of_quoted? hQuoted).1
      · exact List.subset_cons_of_subset c (ih h)

theorem subset_of_unquote?
    (h : unquote? text = some body) :
    body ⊆ text := by
  unfold unquote? at h
  split at h
  · rename_i rest hTrim
    have hRest := List.Subset.trans (subset_of_stripEnd h)
      (List.subset_cons_self '"' rest)
    rw [← hTrim] at hRest
    exact List.Subset.trans hRest (trim_subset text)
  · cases h

theorem unquoted_subset (text : List Char) :
    unquoted text ⊆ text := by
  unfold unquoted
  cases hQuotes : unquote? text with
  | none => exact List.Subset.refl text
  | some inner => exact subset_of_unquote? hQuotes

end Text

end Blueprint
