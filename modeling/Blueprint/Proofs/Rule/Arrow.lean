import Blueprint.Proofs.Text.TopLevel
import Blueprint.Rule

/-
  The arrow of a rule: where a line is cut into a condition
  and an action, and when an arrow that looks like the one
  to cut at is missed.

  Main definition:
    * `Rule.arrowText`

  Main statements:
    * `Rule.splitArrow_trim`
    * `Rule.partsOfText_arrowText`
    * `cutTopLevel_exact`
-/

------------------------------------------------------------
-- Lines with an Arrow
------------------------------------------------------------

namespace Blueprint

open Text

namespace Rule

/- The line of a rule with an arrow. -/
def arrowText
    (condition action : List Char) : List Char :=
  "if ".toList ++ (condition ++ '→' :: action)

variable {condition : List Char}

/- A line of a rule is read without its first word. -/
theorem partsOfText_if
    (rest : List Char) :
    partsOfText ("if ".toList ++ rest) =
      .ok (Condition.ofText? (splitArrow (trim rest)).1,
        nonempty? (splitArrow (trim rest)).2) := by
  have hStrip : stripStart "if ".toList
      ("if ".toList ++ rest) = some rest :=
    stripStart_eq_some_iff.mpr rfl
  rw [partsOfText, hStrip]

/- The parts are cut at the first arrow that is level. -/
theorem splitArrow_trim
    (action : List Char)
    (hLevel : IsLevel condition)
    (hFirst : ∀ before after,
      condition = before ++ '→' :: after →
        ¬ IsLevel before) :
    splitArrow (trim (condition ++ '→' :: action)) =
      (trim condition, trim action) := by
  obtain ⟨blanks, hBlanks, hWhole⟩ :=
    exists_eq_append_trimStart condition
  have hStart : IsLevel (trimStart condition) := by
    rw [← isLevel_append_of_blank _ hBlanks, ← hWhole]
    exact hLevel
  have hNone : ∀ before after,
      trimStart condition = before ++ '→' :: after →
        ¬ IsLevel before := by
    intro before after hText
    have hPlace : condition =
        (blanks ++ before) ++ '→' :: after := by
      rw [List.append_assoc, ← hText]
      exact hWhole
    rw [← isLevel_append_of_blank _ hBlanks]
    exact hFirst _ after hPlace
  have hCut := cutTopLevel_append_cons (trimEnd action)
    hStart hNone
  rw [trim_append_cons condition action (by decide),
    splitArrow, hCut]
  dsimp only
  rw [trim_trimStart, trim_trimEnd]

/- A line with a level arrow is read in two parts. -/
theorem partsOfText_arrowText
    (action : List Char)
    (hLevel : IsLevel condition)
    (hFirst : ∀ before after,
      condition = before ++ '→' :: after →
        ¬ IsLevel before) :
    partsOfText (arrowText condition action) =
      .ok (Condition.ofText? (trim condition),
        nonempty? (trim action)) := by
  rw [arrowText, partsOfText_if,
    splitArrow_trim action hLevel hFirst]

/-
  When the first arrow of a line is not level, what is read
  as the action is shorter than what follows that arrow.
-/
theorem length_splitArrow_lt
    {action : List Char}
    (hArrow : '→' ∉ condition)
    (hLevel : ¬ IsLevel condition)
    (hAction : trim action ≠ []) :
    (splitArrow (trim (condition ++ '→' :: action))).2.length <
      (trim action).length := by
  have hTrim := trim_append_cons condition action
    (show isBlank '→' = false by decide)
  have hCut := firstCut_cutTopLevel '→'
    (trimStart condition ++ '→' :: trimEnd action)
  rw [hTrim, splitArrow]
  generalize cutTopLevel '→'
    (trimStart condition ++ '→' :: trimEnd action) = cut at hCut ⊢
  cases hCut with
  | absent _ => exact List.length_pos_of_ne_nil hAction
  | @found before after hPlace hHere _ =>
      dsimp only
      have hOther : before ≠ trimStart condition := by
        rintro rfl
        obtain ⟨blanks, hBlanks, hWhole⟩ :=
          exists_eq_append_trimStart condition
        apply hLevel
        rw [hWhole, isLevel_append_of_blank _ hBlanks]
        exact hHere
      rcases List.append_eq_append_iff.mp hPlace with
        ⟨more, hBefore, hMore⟩ | ⟨more, hStart, hMore⟩
      · cases more with
        | nil =>
            rw [List.append_nil] at hBefore
            exact absurd hBefore hOther
        | cons c more =>
            have hEnd : trimEnd action =
                more ++ '→' :: after :=
              (List.cons.inj hMore).2
            have hWhole : trim action =
                trimStart more ++ '→' :: trimEnd after := by
              rw [← trim_trimEnd, hEnd,
                trim_append_cons more after (by decide)]
            have hShort := length_trim_le (trimEnd after)
            rw [trim_trimEnd] at hShort
            rw [hWhole, List.length_append, List.length_cons]
            omega
      · cases more with
        | nil =>
            rw [List.append_nil] at hStart
            exact absurd hStart.symm hOther
        | cons c more =>
            obtain ⟨rfl, _⟩ := List.cons.inj hMore
            have hMem : '→' ∈ trimStart condition := by
              rw [hStart]
              simp
            exact absurd
              ((List.dropWhile_sublist _).subset hMem) hArrow

end Rule

end Blueprint

------------------------------------------------------------
-- Arrows at the Top Level
------------------------------------------------------------

namespace Blueprint

open Text

/-
  The cut at the top level is made at the first target that
  is level: outside of quotes, with as many brackets closed
  as opened before it. It is the first target outside of
  quotes and of all brackets that are still open exactly if
  no stray closing bracket stands before the first target
  that is level or outside of all of them.

  So a rule whose first arrow is outside of quotes and of
  all brackets is cut there exactly if no stray closing
  bracket stands before it.
-/
theorem cutTopLevel_exact
    (target : Char)
    (text condition action : List Char) :
    FirstCut IsLevel target text (cutTopLevel target text) ∧
      (FirstCut IsUnenclosed target text
          (cutTopLevel target text) ↔
        ∀ before after,
          FirstCut
            (fun place => IsLevel place ∨ IsUnenclosed place)
            target text (some (before, after)) →
              IsStrayFree before) ∧
      ('→' ∉ condition → trim action ≠ [] →
        ((∃ read, Rule.partsOfText
              (Rule.arrowText condition action) =
            .ok (read, some (String.ofList (trim action)))) ↔
          IsLevel condition) ∧
        (IsLevel condition →
          Rule.partsOfText (Rule.arrowText condition action) =
            .ok (Condition.ofText? (trim condition),
              some (String.ofList (trim action)))) ∧
        (IsUnenclosed condition →
          (IsLevel condition ↔ IsStrayFree condition))) := by
  refine ⟨firstCut_cutTopLevel target text,
    firstCut_isUnenclosed_iff target text, ?_⟩
  intro hArrow hAction
  have hNonempty : nonempty? (trim action) =
      some (String.ofList (trim action)) := by
    rw [nonempty?, if_neg (by simpa using hAction)]
  have hRead : IsLevel condition →
      Rule.partsOfText (Rule.arrowText condition action) =
        .ok (Condition.ofText? (trim condition),
          some (String.ofList (trim action))) := by
    intro hLevel
    rw [← hNonempty]
    apply Rule.partsOfText_arrowText action hLevel
    rintro before after rfl
    exact absurd (List.mem_append_right _ List.mem_cons_self)
      hArrow
  refine ⟨⟨?missed, fun hLevel => ⟨_, hRead hLevel⟩⟩, hRead,
    ?stray⟩
  case missed =>
      rintro ⟨read, hParts⟩
      by_contra hLevel
      have hShort := Rule.length_splitArrow_lt hArrow hLevel
        hAction
      rw [Rule.arrowText, Rule.partsOfText_if,
        Except.ok.injEq, Prod.mk.injEq, nonempty?] at hParts
      have hSome := hParts.2
      split at hSome
      · cases hSome
      · rw [Option.some.injEq] at hSome
        rw [String.ofList_injective hSome] at hShort
        exact Nat.lt_irrefl _ hShort
  case stray =>
      intro hUnenclosed
      constructor
      · intro hLevel
        exact isStrayFree_of_isLevel_of_isUnenclosed hLevel
          hUnenclosed
      · intro hStray
        exact hStray.isLevel_iff.mpr hUnenclosed

/- A condition with a comma and a bracket in quotes. -/
def spamCondition : List Char :=
  "rate(post, \"a, b)\") is [high] ".toList

/- The condition closes all of its brackets. -/
theorem isLevel_spamCondition : IsLevel spamCondition := by
  have hStart : Shows "rate(post, ".toList
      "rate(post, ".toList :=
    shows_of_not_mem (by decide)
  have hEnd : Shows ") is [high] ".toList
      ") is [high] ".toList :=
    shows_of_not_mem (by decide)
  have hQuoted : IsEscaped "a, b)".toList :=
    isEscaped_of_not_mem (by decide) (by decide)
  exact ⟨_, hStart.append (.hidden hQuoted hEnd), by decide⟩

/- A rule with this condition is cut at its arrow. -/
theorem cutTopLevel_exact_spamCondition :
    '→' ∉ spamCondition ∧
      trim " hide Post".toList ≠ [] ∧
      Rule.partsOfText
          (Rule.arrowText spamCondition " hide Post".toList) =
        .ok (Condition.ofText? (trim spamCondition),
          some (String.ofList (trim " hide Post".toList))) := by
  have hArrow : '→' ∉ spamCondition := by decide
  have hAction : trim " hide Post".toList ≠ [] := by decide
  exact ⟨hArrow, hAction,
    ((cutTopLevel_exact ',' spamCondition spamCondition
      " hide Post".toList).2.2 hArrow hAction).2.1
        isLevel_spamCondition⟩

/-
  A closing bracket that was never opened hides the arrow
  after it, and so the rule loses its action. Behind it, an
  arrow in brackets is taken for one outside of them.
-/
theorem cutTopLevel_strayBracket :
    (IsUnenclosed "x) ".toList ∧
      Rule.arrowText "x) ".toList " y".toList =
        "if x) → y".toList ∧
      Rule.partsOfText "if x) → y".toList =
        .ok (some (.plain "x) → y"), none) ∧
      ¬ FirstCut IsUnenclosed '→' "x) → y".toList
        (cutTopLevel '→' "x) → y".toList)) ∧
      ¬ IsUnenclosed "x) (y ".toList ∧
        cutTopLevel '→' "x) (y → z)".toList =
          some ("x) (y ".toList, " z)".toList) := by
  have hShort : Shows "x) ".toList "x) ".toList :=
    shows_of_not_mem (by decide)
  have hLong : Shows "x) (y ".toList "x) (y ".toList :=
    shows_of_not_mem (by decide)
  have hOpen : IsUnenclosed "x) ".toList :=
    ⟨_, hShort, by decide⟩
  have hNone : cutTopLevel '→' "x) → y".toList = none := by
    decide
  refine ⟨⟨hOpen, by decide, by decide, ?_⟩, ?_, by decide⟩
  · rw [hNone]
    intro hCut
    cases hCut with
    | absent hNowhere =>
        exact hNowhere "x) ".toList " y".toList (by decide)
          hOpen
  · rintro ⟨seen, hSeen, hClosed⟩
    rw [← hLong.unique hSeen] at hClosed
    exact absurd hClosed (by decide)

end Blueprint
