import Blueprint.Proofs.Text.TopLevel

/-
  The pieces of a text between its top-level commas. One scan
  of the whole text finds them, and so does a scan that
  starts afresh behind every comma: at the top level a scan
  stands where it stood at the start, on unbalanced and
  unterminated texts too.

  Main definitions:
    * `restartedPieces`, `itemsAfter`
    * `markPlaces`, `topLevelPlaces`
    * `SplitsTopLevel`

  Main statements:
    * `cutTopLevel_eq_none_iff`, `cutTopLevel_eq_some_iff`
    * `isLevel_trim_iff`, `cutTopLevel_trim`
    * `cuts_induction`
    * `restartedPieces_eq`, `itemsAfter_eq`
    * `topLevelPlaces_eq_markPlaces`
    * `splitsTopLevel_topLevelItems`
-/

------------------------------------------------------------
-- Cuts and their Places
------------------------------------------------------------

namespace Blueprint

namespace Text

variable {target : Char}
variable {text before after : List Char}

/- There is no cut when every target is enclosed. -/
theorem cutTopLevel_eq_none_iff :
    cutTopLevel target text = none ↔
      ∀ before after, text = before ++ target :: after →
        ¬ IsLevel before := by
  have hCut := firstCut_cutTopLevel target text
  constructor
  · intro hNone
    rw [hNone] at hCut
    cases hCut with
    | absent hNowhere => exact hNowhere
  · intro hNowhere
    exact hCut.unique (.absent hNowhere)

/- A cut is made at a level place, with no cut before it. -/
theorem cutTopLevel_eq_some_iff :
    cutTopLevel target text = some (before, after) ↔
      text = before ++ target :: after ∧ IsLevel before ∧
        cutTopLevel target before = none := by
  constructor
  · intro hSome
    have hCut := firstCut_cutTopLevel target text
    rw [hSome] at hCut
    cases hCut with
    | found hPlace hHere hFirst =>
        refine ⟨hPlace, hHere, ?_⟩
        rw [cutTopLevel_eq_none_iff]
        intro earlier later hBefore hEarly
        have hWhole : text = earlier ++
            target :: (later ++ target :: after) := by
          rw [hPlace, hBefore, List.append_assoc,
            List.cons_append]
        have hShort := hFirst _ _ hWhole hEarly
        rw [hBefore, List.length_append,
          List.length_cons] at hShort
        omega
  · rintro ⟨rfl, hLevel, hNone⟩
    exact cutTopLevel_append_cons after hLevel
      (cutTopLevel_eq_none_iff.mp hNone)

/- What follows a cut is shorter than the text. -/
theorem length_lt_of_cutTopLevel
    (h : cutTopLevel target text = some (before, after)) :
    after.length < text.length := by
  rw [(cutTopLevel_eq_some_iff.mp h).1, List.length_append,
    List.length_cons]
  omega

/-
  At the top level a scan stands where it stood at the start:
  no bracket counts, and nothing is quoted or escaped.
-/
theorem after_eq_outermost
    (hText : IsLevel text) :
    Nesting.outermost.after text = .outermost := by
  rcases hText with ⟨seen, hSeen, hBalance⟩
  have hAfter : Nesting.outermost.after text =
      .plain (0 + balance seen) :=
    hSeen.after_plain 0
  rw [hAfter, hBalance]
  rfl

end Text

end Blueprint

------------------------------------------------------------
-- Blanks around a Text
------------------------------------------------------------

namespace Blueprint

namespace Text

variable {target : Char}
variable {text : List Char}

/- A blank leads neither to the top level nor away from it. -/
theorem isTopLevel_next_of_blank
    {c : Char}
    (n : Nesting)
    (hBlank : isBlank c = true) :
    (n.next c).isTopLevel = n.isTopLevel := by
  have hOther : ∀ d, isBlank d = false → c ≠ d := by
    rintro d hFalse rfl
    rw [hBlank] at hFalse
    cases hFalse
  have hQuote := hOther '"' (by decide)
  have hBackslash := hOther '\\' (by decide)
  unfold Nesting.next
  by_cases hQuoted : n.quoted = true
  · rw [if_pos hQuoted, Nesting.nextQuoted,
      if_neg hBackslash, if_neg hQuote]
    split <;> rfl
  · rw [if_neg hQuoted, Nesting.nextPlain, if_neg hQuote,
      if_neg (by
        simp [hOther '(' (by decide), hOther '[' (by decide)]),
      if_neg (by
        simp [hOther ')' (by decide), hOther ']' (by decide)])]

/- Blanks behind a text do not change what is level. -/
theorem isLevel_append_blanks_iff
    {after : List Char}
    (hAfter : ∀ c ∈ after, isBlank c = true) :
    IsLevel (text ++ after) ↔ IsLevel text := by
  rw [← isTopLevel_after_iff, ← isTopLevel_after_iff,
    Nesting.after_append]
  generalize Nesting.outermost.after text = n
  induction after generalizing n with
  | nil => rfl
  | cons c after ih =>
      rw [List.forall_mem_cons] at hAfter
      have hNext : n.after (c :: after) =
          (n.next c).after after := rfl
      rw [hNext, ih hAfter.2,
        isTopLevel_next_of_blank n hAfter.1]

/- A text is level when it is so without blanks around it. -/
theorem isLevel_trim_iff (text : List Char) :
    IsLevel (trim text) ↔ IsLevel text := by
  rcases exists_eq_append_trim text with
    ⟨start, stop, hText, hStart, hStop⟩
  conv_rhs => rw [hText]
  rw [isLevel_append_blanks_iff hStop,
    isLevel_append_of_blank _ hStart]

/- Trimming does not bring a target to the top level. -/
theorem cutTopLevel_trim
    (hText : cutTopLevel target text = none) :
    cutTopLevel target (trim text) = none := by
  rw [cutTopLevel_eq_none_iff] at hText ⊢
  intro before after hTrim hLevel
  rcases exists_eq_append_trim text with
    ⟨start, stop, hWhole, hStart, _⟩
  apply hText (start ++ before) (after ++ stop)
  · rw [hWhole, hTrim]
    simp
  · rwa [isLevel_append_of_blank _ hStart]

end Text

end Blueprint

------------------------------------------------------------
-- Scans that Start Afresh
------------------------------------------------------------

namespace Blueprint

namespace Text

variable {text before after : List Char}

/-
  The pieces between the commas that are found one by one:
  behind each comma a new scan starts at the top level.
-/
def restartedPieces
    (text : List Char) : List (List Char) :=
  match _hCut : cutTopLevel ',' text with
  | none => [text]
  | some (before, after) =>
      before :: restartedPieces after
termination_by text.length
decreasing_by exact length_lt_of_cutTopLevel _hCut

/-
  Induction along the commas of a text. What holds of every
  text without a cut, and of a text whenever it holds of
  what follows the first cut, holds of all texts.
-/
@[elab_as_elim]
theorem cuts_induction
    {motive : List Char → Prop}
    (whole : ∀ text,
      cutTopLevel ',' text = none → motive text)
    (cut : ∀ text before after,
      cutTopLevel ',' text = some (before, after) →
        motive after → motive text)
    (text : List Char) :
    motive text := by
  induction text using restartedPieces.induct with
  | case1 text hNone => exact whole text hNone
  | case2 text before after hCut ih =>
      exact cut text before after hCut ih

/-
  The items that are gathered comma by comma, behind those
  that were found before. What is left in the end is an item
  unless it is blank and the only one.
-/
def itemsAfter
    (found : List (List Char))
    (text : List Char) : List (List Char) :=
  match _hCut : cutTopLevel ',' text with
  | none =>
      if !isBlankText text || !found.isEmpty then
        found ++ [trim text]
      else
        found
  | some (before, after) =>
      itemsAfter (found ++ [trim before]) after
termination_by text.length
decreasing_by exact length_lt_of_cutTopLevel _hCut

/-
  The first piece of a scan is what it cuts off. The scan
  goes on from where it stands at the comma.
-/
theorem topLevelPiecesFrom_eq
    (n : Nesting)
    (text : List Char) :
    topLevelPiecesFrom n text =
      match cutTopLevelFrom ',' n text with
      | none => [text]
      | some (before, after) =>
          before ::
            topLevelPiecesFrom (n.after before) after := by
  induction text generalizing n with
  | nil => rfl
  | cons c rest ih =>
      rw [topLevelPiecesFrom, cutTopLevelFrom]
      by_cases hHere : (n.isTopLevel && c == ',') = true
      · rw [if_pos hHere, if_pos hHere]
        rfl
      · rw [if_neg hHere, if_neg hHere, ih (n.next c)]
        cases hCut : cutTopLevelFrom ',' (n.next c) rest with
        | none => rfl
        | some cut => rfl

/- A text without a cut is one piece. -/
theorem topLevelPieces_of_cutTopLevel_eq_none
    (h : cutTopLevel ',' text = none) :
    topLevelPieces text = [text] := by
  have hCut : cutTopLevelFrom ',' .outermost text = none := h
  rw [topLevelPieces, topLevelPiecesFrom_eq, hCut]

/- Behind a cut, the pieces are those of the rest alone. -/
theorem topLevelPieces_of_cutTopLevel
    (h : cutTopLevel ',' text = some (before, after)) :
    topLevelPieces text = before :: topLevelPieces after := by
  have hCut : cutTopLevelFrom ',' .outermost text =
      some (before, after) := h
  have hLevel := (cutTopLevel_eq_some_iff.mp h).2.1
  rw [topLevelPieces, topLevelPiecesFrom_eq, hCut]
  dsimp only
  rw [after_eq_outermost hLevel]
  rfl

/- Starting afresh behind each comma gives the same pieces. -/
theorem restartedPieces_eq (text : List Char) :
    restartedPieces text = topLevelPieces text := by
  fun_induction restartedPieces text with
  | case1 text hNone =>
      rw [topLevelPieces_of_cutTopLevel_eq_none hNone]
  | case2 text before after hCut ih =>
      rw [ih, topLevelPieces_of_cutTopLevel hCut]

/- A text with a cut is not blank. -/
theorem isBlankText_of_cutTopLevel
    (h : cutTopLevel ',' text = some (before, after)) :
    isBlankText text = false := by
  rw [Bool.eq_false_iff, Ne, isBlankText_iff]
  intro hBlank
  have hComma : ',' ∈ text := by
    rw [(cutTopLevel_eq_some_iff.mp h).1]
    simp
  exact absurd (hBlank ',' hComma) (by decide)

/-
  Comma by comma, the trimmed pieces are gathered. Only a
  blank text that follows no comma is left out.
-/
theorem itemsAfter_eq
    (found : List (List Char))
    (text : List Char) :
    itemsAfter found text =
      if isBlankText text && found.isEmpty then
        []
      else
        found ++ (topLevelPieces text).map trim := by
  fun_induction itemsAfter found text with
  | case1 found text hNone hKept =>
      rw [← Bool.not_and, Bool.not_eq_true'] at hKept
      rw [hKept, if_neg Bool.false_ne_true,
        topLevelPieces_of_cutTopLevel_eq_none hNone]
      rfl
  | case2 found text hNone hLeft =>
      rw [← Bool.not_and, Bool.not_eq_true',
        Bool.not_eq_false] at hLeft
      rw [if_pos hLeft]
      rw [Bool.and_eq_true, List.isEmpty_iff] at hLeft
      exact hLeft.2
  | case3 found text before after hCut ih =>
      have hSome : (found ++ [trim before]).isEmpty = false :=
        by simp
      rw [ih, hSome, Bool.and_false,
        isBlankText_of_cutTopLevel hCut, Bool.false_and,
        topLevelPieces_of_cutTopLevel hCut, List.map_cons]
      simp

/- So the items are those that are gathered from the start. -/
theorem itemsAfter_nil (text : List Char) :
    itemsAfter [] text = topLevelItems text := by
  rw [itemsAfter_eq, topLevelItems, List.isEmpty_nil,
    Bool.and_true, List.nil_append]

end Text

end Blueprint

------------------------------------------------------------
-- Places of Commas
------------------------------------------------------------

namespace Blueprint

namespace Text

variable {target : Char}
variable {text before after : List Char}

/-
  The places of the marks between pieces, when the pieces
  are joined by marks of one character.
-/
def markPlaces : List (List Char) → List Nat
| [] => []
| [_] => []
| piece :: more =>
    piece.length ::
      (markPlaces more).map (piece.length + 1 + ·)

/-
  Whether a scan of the text that never starts afresh stands
  at the top level where it meets the target at a place.
-/
def isTopLevelAt
    (target : Char)
    (text : List Char)
    (place : Nat) : Bool :=
  text[place]? == some target &&
    (Nesting.outermost.after (text.take place)).isTopLevel

/- The places of the targets at the top level of a text. -/
def topLevelPlaces
    (target : Char)
    (text : List Char) : List Nat :=
  (List.range text.length).filter (isTopLevelAt target text)

/- The piece before others adds a mark and moves the rest. -/
theorem markPlaces_cons
    {pieces : List (List Char)}
    (piece : List Char)
    (hSome : pieces ≠ []) :
    markPlaces (piece :: pieces) =
      piece.length ::
        (markPlaces pieces).map (piece.length + 1 + ·) := by
  cases pieces with
  | nil => exact absurd rfl hSome
  | cons second more => rfl

/- A target at the top level stands behind a level text. -/
theorem isTopLevelAt_iff
    {place : Nat} :
    isTopLevelAt target text place = true ↔
      text[place]? = some target ∧
        IsLevel (text.take place) := by
  rw [isTopLevelAt, Bool.and_eq_true, beq_iff_eq,
    isTopLevel_after_iff]

/- A text without a cut has no such place. -/
theorem topLevelPlaces_of_cutTopLevel_eq_none
    (h : cutTopLevel target text = none) :
    topLevelPlaces target text = [] := by
  rw [cutTopLevel_eq_none_iff] at h
  unfold topLevelPlaces
  rw [List.filter_eq_nil_iff]
  intro i _
  rw [isTopLevelAt_iff]
  rintro ⟨hTarget, hLevel⟩
  rcases List.getElem?_eq_some_iff.mp hTarget with
    ⟨hBound, hChar⟩
  apply h (text.take i) (text.drop (i + 1)) _ hLevel
  rw [← hChar, ← List.drop_eq_getElem_cons hBound,
    List.take_append_drop]

/- What follows a place does not matter there. -/
theorem isTopLevelAt_append_left
    {place : Nat}
    (hPlace : place < before.length) :
    isTopLevelAt target (before ++ after) place =
      isTopLevelAt target before place := by
  unfold isTopLevelAt
  rw [List.getElem?_append_left hPlace,
    List.take_append_of_le_length (Nat.le_of_lt hPlace)]

/- A target behind a level text is at the top level. -/
theorem isTopLevelAt_length
    (after : List Char)
    (hLevel : IsLevel before) :
    isTopLevelAt target (before ++ target :: after)
      before.length = true := by
  rw [isTopLevelAt_iff, List.getElem?_append_right
    (Nat.le_refl _), Nat.sub_self, List.take_left]
  exact ⟨rfl, hLevel⟩

/-
  Behind a comma at the top level the scan has come back to
  where it started, and what precedes does not matter.
-/
theorem isTopLevelAt_append_right
    (after : List Char)
    (place : Nat)
    (hLevel : IsLevel before) :
    isTopLevelAt target (before ++ ',' :: after)
        (before.length + 1 + place) =
      isTopLevelAt target after place := by
  have hRest : Nesting.outermost.after
      (',' :: after.take place) =
        Nesting.outermost.after (after.take place) :=
    rfl
  unfold isTopLevelAt
  rw [Nat.add_assoc, List.getElem?_append_right (by omega),
    Nat.add_sub_cancel_left, Nat.add_comm 1 place,
    List.getElem?_cons_succ, List.take_length_add_append,
    List.take_succ_cons, Nesting.after_append,
    after_eq_outermost hLevel, hRest]

/- The places before a cut, the cut, and those behind it. -/
theorem topLevelPlaces_of_cutTopLevel
    (h : cutTopLevel ',' text = some (before, after)) :
    topLevelPlaces ',' text =
      before.length ::
        (topLevelPlaces ',' after).map
          (before.length + 1 + ·) := by
  rcases cutTopLevel_eq_some_iff.mp h with
    ⟨rfl, hLevel, hNone⟩
  have hRange :
      List.range (before ++ ',' :: after).length =
        List.range before.length ++ before.length ::
          (List.range after.length).map
            (before.length + 1 + ·) := by
    rw [List.length_append, List.length_cons,
      Nat.add_comm after.length 1, ← Nat.add_assoc,
      List.range_add, List.range_succ, List.append_assoc]
    rfl
  have hEarly : (List.range before.length).filter
      (isTopLevelAt ',' (before ++ ',' :: after)) = [] := by
    rw [← topLevelPlaces_of_cutTopLevel_eq_none hNone]
    apply List.filter_congr
    intro place hMem
    exact isTopLevelAt_append_left (List.mem_range.mp hMem)
  have hLater : isTopLevelAt ',' (before ++ ',' :: after) ∘
      (before.length + 1 + ·) = isTopLevelAt ',' after := by
    funext place
    exact isTopLevelAt_append_right after place hLevel
  rw [topLevelPlaces, hRange, List.filter_append, hEarly,
    List.nil_append,
    List.filter_cons_of_pos (isTopLevelAt_length after hLevel),
    List.filter_map, hLater]
  rfl

/-
  The commas between the pieces are those at which one scan
  of the whole text stands at the top level.
-/
theorem topLevelPlaces_eq_markPlaces (text : List Char) :
    topLevelPlaces ',' text =
      markPlaces (topLevelPieces text) := by
  induction text using cuts_induction with
  | whole text hNone =>
      rw [topLevelPlaces_of_cutTopLevel_eq_none hNone,
        topLevelPieces_of_cutTopLevel_eq_none hNone]
      rfl
  | cut text before after hCut ih =>
      have hSome : topLevelPieces after ≠ [] :=
        topLevelPiecesFrom_ne_nil _ after
      rw [topLevelPlaces_of_cutTopLevel hCut,
        topLevelPieces_of_cutTopLevel hCut,
        markPlaces_cons before hSome, ih]

end Text

end Blueprint

------------------------------------------------------------
-- Items and their Text
------------------------------------------------------------

namespace Blueprint

namespace Text

variable {text before after : List Char}

/- The pieces and their commas are the whole text. -/
theorem joinWith_topLevelPieces (text : List Char) :
    joinWith [','] (topLevelPieces text) = text := by
  induction text using cuts_induction with
  | whole text hNone =>
      rw [topLevelPieces_of_cutTopLevel_eq_none hNone]
      rfl
  | cut text before after hCut ih =>
      have hSome : topLevelPieces after ≠ [] :=
        topLevelPiecesFrom_ne_nil _ after
      rw [topLevelPieces_of_cutTopLevel hCut,
        joinWith_cons_of_ne_nil _ before hSome, ih,
        (cutTopLevel_eq_some_iff.mp hCut).1,
        List.append_assoc, List.singleton_append]

/- No piece has a comma at the top level. -/
theorem cutTopLevel_of_mem_topLevelPieces
    {piece : List Char}
    (hMem : piece ∈ topLevelPieces text) :
    cutTopLevel ',' piece = none := by
  induction text using cuts_induction with
  | whole text hNone =>
      rw [topLevelPieces_of_cutTopLevel_eq_none hNone,
        List.mem_singleton] at hMem
      rw [hMem]
      exact hNone
  | cut text before after hCut ih =>
      rw [topLevelPieces_of_cutTopLevel hCut,
        List.mem_cons] at hMem
      rcases hMem with rfl | hRest
      · exact (cutTopLevel_eq_some_iff.mp hCut).2.2
      · exact ih hRest

/- A text that is not blank has its trimmed pieces as items. -/
theorem topLevelItems_of_not_blank
    (hText : isBlankText text = false) :
    topLevelItems text = (topLevelPieces text).map trim := by
  rw [topLevelItems, hText, if_neg Bool.false_ne_true]

/- Exactly the blank texts have no items. -/
theorem topLevelItems_eq_nil_iff :
    topLevelItems text = [] ↔
      ∀ c ∈ text, isBlank c = true := by
  rw [← isBlankText_iff, topLevelItems]
  split
  · rename_i hBlank
    exact iff_of_true rfl hBlank
  · rename_i hText
    have hSome : topLevelPieces text ≠ [] :=
      topLevelPiecesFrom_ne_nil _ text
    rw [List.map_eq_nil_iff]
    exact iff_of_false hSome hText

/-
  The list of the trimmed pieces, written with commas and
  spaces: a cut of the text is a cut of the list, between
  the trimmed parts.
-/
theorem cutTopLevel_joinWith_trim
    (hCut : cutTopLevel ',' text = some (before, after)) :
    cutTopLevel ',' (joinWith [',', ' ']
        ((topLevelPieces text).map trim)) =
      some (trim before, ' ' :: joinWith [',', ' ']
        ((topLevelPieces after).map trim)) := by
  rcases cutTopLevel_eq_some_iff.mp hCut with
    ⟨_, hLevel, hNone⟩
  have hSome : (topLevelPieces after).map trim ≠ [] := by
    rw [Ne, List.map_eq_nil_iff]
    exact topLevelPiecesFrom_ne_nil _ after
  rw [cutTopLevel_eq_some_iff,
    topLevelPieces_of_cutTopLevel hCut, List.map_cons,
    joinWith_cons_of_ne_nil _ _ hSome, List.append_assoc]
  exact ⟨rfl, (isLevel_trim_iff before).mpr hLevel,
    cutTopLevel_trim hNone⟩

/- The list has the pieces of the text, up to blanks. -/
theorem map_trim_topLevelPieces_joinWith
    (text : List Char) :
    (topLevelPieces (joinWith [',', ' ']
        ((topLevelPieces text).map trim))).map trim =
      (topLevelPieces text).map trim := by
  induction text using cuts_induction with
  | whole text hNone =>
      rw [topLevelPieces_of_cutTopLevel_eq_none hNone,
        List.map_singleton, joinWith,
        topLevelPieces_of_cutTopLevel_eq_none
          (cutTopLevel_trim hNone),
        List.map_singleton, trim_trim]
  | cut text before after hCut ih =>
      rw [topLevelPieces_of_cutTopLevel
          (cutTopLevel_joinWith_trim hCut),
        List.map_cons, map_trim_topLevelPieces_space, ih,
        trim_trim, topLevelPieces_of_cutTopLevel hCut,
        List.map_cons]

/- The list is blank only where the text is. -/
theorem isBlankText_joinWith_trim (text : List Char) :
    isBlankText (joinWith [',', ' ']
        ((topLevelPieces text).map trim)) =
      isBlankText text := by
  cases hCut : cutTopLevel ',' text with
  | none =>
      rw [topLevelPieces_of_cutTopLevel_eq_none hCut,
        List.map_singleton, joinWith, isBlankText, trim_trim,
        isBlankText]
  | some cut =>
      rw [isBlankText_of_cutTopLevel hCut,
        isBlankText_of_cutTopLevel
          (cutTopLevel_joinWith_trim hCut)]

/- Items are read back from a list that they are written to. -/
theorem topLevelItems_joinWith_topLevelItems
    (text : List Char) :
    topLevelItems (joinWith [',', ' '] (topLevelItems text)) =
      topLevelItems text := by
  by_cases hBlank : isBlankText text = true
  · rw [topLevelItems_eq_nil_iff.mpr (isBlankText_iff.mp hBlank)]
    rfl
  · rw [Bool.not_eq_true] at hBlank
    have hJoined := isBlankText_joinWith_trim text
    rw [hBlank] at hJoined
    rw [topLevelItems_of_not_blank hBlank,
      topLevelItems_of_not_blank hJoined,
      map_trim_topLevelPieces_joinWith]

/-
  Items into which a text is split without loss. Its pieces
  are found by scans that start afresh behind each comma,
  and are the text again when they are joined with commas;
  the commas are those that a single scan of the text meets
  outside of quotes, with as many brackets closed as opened.
  The items are the trimmed pieces, and a blank text has
  none. They are split no further, and are the items of the
  list that is written with them.
-/
structure SplitsTopLevel
    (text : List Char)
    (items : List (List Char)) : Prop where
  lossless :
    joinWith [','] (restartedPieces text) = text
  uninterrupted :
    markPlaces (restartedPieces text) =
      topLevelPlaces ',' text
  level :
    ∀ place, place ∈ topLevelPlaces ',' text ↔
      text[place]? = some ',' ∧ IsLevel (text.take place)
  gathered : itemsAfter [] text = items
  trimmed :
    items ≠ [] → items = (restartedPieces text).map trim
  uncut : ∀ item ∈ items, cutTopLevel ',' item = none
  empty : items = [] ↔ ∀ c ∈ text, isBlank c = true
  canonical :
    topLevelItems (joinWith [',', ' '] items) = items

/- Every text is split without loss. -/
theorem splitsTopLevel_topLevelItems (text : List Char) :
    SplitsTopLevel text (topLevelItems text) where
  lossless := by
    rw [restartedPieces_eq]
    exact joinWith_topLevelPieces text
  uninterrupted := by
    rw [restartedPieces_eq]
    exact (topLevelPlaces_eq_markPlaces text).symm
  level := by
    intro place
    rw [topLevelPlaces, List.mem_filter, isTopLevelAt_iff,
      and_iff_right_iff_imp]
    rintro ⟨hComma, _⟩
    rw [List.mem_range]
    exact (List.getElem?_eq_some_iff.mp hComma).1
  gathered := itemsAfter_nil text
  trimmed := by
    intro hSome
    rw [Ne, topLevelItems_eq_nil_iff, ← isBlankText_iff,
      Bool.not_eq_true] at hSome
    rw [restartedPieces_eq]
    exact topLevelItems_of_not_blank hSome
  uncut := by
    intro item hMem
    by_cases hBlank : isBlankText text = true
    · rw [topLevelItems, if_pos hBlank] at hMem
      cases hMem
    · rw [Bool.not_eq_true] at hBlank
      rw [topLevelItems_of_not_blank hBlank,
        List.mem_map] at hMem
      rcases hMem with ⟨piece, hPiece, rfl⟩
      exact cutTopLevel_trim
        (cutTopLevel_of_mem_topLevelPieces hPiece)
  empty := topLevelItems_eq_nil_iff
  canonical := topLevelItems_joinWith_topLevelItems text

/-
  Brackets and quotes hide their commas, up to the end of
  the text where they are not closed.
-/
example :
    topLevelItems " a, f(b, c) ,, \"d, e) ".toList =
      ["a".toList, "f(b, c)".toList, [],
        "\"d, e)".toList] := by
  decide

end Text

end Blueprint
