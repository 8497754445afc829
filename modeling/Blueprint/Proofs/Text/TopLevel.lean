import Blueprint.Proofs.Text.Nesting

/-
  Cuts at the top level, told without the scan that makes
  them: by what a text shows outside its quotes and by the
  brackets that are open there.

  A cut is made where as many brackets have been closed as
  opened. That is where no bracket is open, unless a bracket
  was closed that had never been opened.

  Main definitions:
    * `Shows`
    * `openFrom`, `strayFrom`
    * `IsLevel`, `IsUnenclosed`, `IsStrayFree`
    * `FirstCut`

  Main statements:
    * `isTopLevel_after_iff`
    * `openFrom_eq_balance_add`
    * `IsStrayFree.isLevel_iff`
    * `firstCut_cutTopLevel`, `cutTopLevel_append_cons`
    * `firstCut_isUnenclosed_iff`
-/

------------------------------------------------------------
-- Outside of Quotes
------------------------------------------------------------

namespace Blueprint

namespace Text

/-
  A text that closes the quotes it opens, with the
  characters that stand outside of them.
-/
inductive Shows : List Char → List Char → Prop
| nil : Shows [] []
| plain
    {c : Char}
    {text seen : List Char}
    (hQuote : c ≠ '"')
    (hRest : Shows text seen) :
    Shows (c :: text) (c :: seen)
| hidden
    {quoted text seen : List Char}
    (hQuoted : IsEscaped quoted)
    (hRest : Shows text seen) :
    Shows (inQuotes quoted ++ text) seen

/- A text without quotes shows all of itself. -/
theorem shows_of_not_mem
    {text : List Char}
    (hText : '"' ∉ text) :
    Shows text text := by
  induction text with
  | nil => exact .nil
  | cons c text ih =>
      rw [List.mem_cons, not_or] at hText
      exact .plain (Ne.symm hText.1) (ih hText.2)

/- A parenthesis or a square bracket that opens. -/
def isOpening (c : Char) : Bool :=
  c == '(' || c == '['

/- A parenthesis or a square bracket that closes. -/
def isClosing (c : Char) : Bool :=
  c == ')' || c == ']'

/- The number of opening less closing brackets. -/
def balance (seen : List Char) : Int :=
  seen.countP isOpening - seen.countP isClosing

/- Brackets are counted one after the other. -/
theorem balance_cons
    (c : Char)
    (seen : List Char) :
    balance (c :: seen) = balance [c] + balance seen := by
  simp only [balance, List.countP_cons, List.countP_nil,
    Int.natCast_add]
  omega

end Text

end Blueprint

------------------------------------------------------------
-- The Nesting after a Text
------------------------------------------------------------

namespace Blueprint

namespace Text

variable {target : Char}

/- Where a scan stands after a text. -/
def Nesting.after
    (n : Nesting)
    (text : List Char) : Nesting :=
  text.foldl Nesting.next n

theorem Nesting.after_append
    (n : Nesting)
    (first second : List Char) :
    n.after (first ++ second) = (n.after first).after second :=
  List.foldl_append

/- A character opens or closes at most one bracket. -/
theorem Nesting.depth_next
    (n : Nesting)
    (c : Char) :
    n.depth - 1 ≤ (n.next c).depth ∧
      (n.next c).depth ≤ n.depth + 1 := by
  unfold next nextQuoted nextPlain
  split_ifs
  all_goals grind

theorem Nesting.depth_after
    (n : Nesting)
    (text : List Char) :
    n.depth - text.length ≤ (n.after text).depth ∧
      (n.after text).depth ≤ n.depth + text.length := by
  induction text generalizing n with
  | nil => simp [after]
  | cons c text ih =>
      have hNext := n.depth_next c
      have hRest : n.after (c :: text) =
          (n.next c).after text := rfl
      have hText := ih (n.next c)
      rw [hRest, List.length_cons]
      omega

/- A depth of 32 bits is the same in a text of that length. -/
theorem Nesting.toInt_ofInt_depth_after
    {text : List Char}
    (hText : text.length ≤ Int32.maxValue.toInt) :
    (Int32.ofInt (outermost.after text).depth).toInt =
      (outermost.after text).depth := by
  have hDepth := outermost.depth_after text
  have hStart : outermost.depth = 0 := rfl
  have hMax : Int32.maxValue.toInt = 2147483647 := rfl
  exact Int32.toInt_ofInt_of_le (by omega) (by omega)

/- A scan over a text leads to where it stands after it. -/
theorem Scans.after_eq
    {n m : Nesting}
    {text : List Char}
    (hText : Scans target n text m) :
    n.after text = m := by
  induction hText with
  | nil => rfl
  | cons _ _ ih => exact ih

/- Outside quotes, only brackets change the nesting. -/
theorem next_plain_of_ne_quote
    {c : Char}
    (depth : Int)
    (hQuote : c ≠ '"') :
    (Nesting.plain depth).next c =
      .plain (depth + balance [c]) := by
  by_cases hOpening : c = '(' ∨ c = '['
  · rw [next_opening depth hOpening]
    rcases hOpening with rfl | rfl <;> rfl
  · by_cases hClosing : c = ')' ∨ c = ']'
    · have hNext := next_closing (depth - 1) hClosing
      rw [Int.sub_add_cancel] at hNext
      rw [hNext]
      rcases hClosing with rfl | rfl <;> rfl
    · push Not at hOpening hClosing
      have hPlain : IsPlain c :=
        ⟨hQuote, hOpening.1, hOpening.2, hClosing.1,
          hClosing.2⟩
      rw [next_plain depth hPlain]
      simp [balance, isOpening, isClosing, hOpening, hClosing]

/- A text leads outside its quotes, by what it shows. -/
theorem Shows.after_plain
    {text seen : List Char}
    (hText : Shows text seen)
    (depth : Int) :
    (Nesting.plain depth).after text =
      .plain (depth + balance seen) := by
  induction hText generalizing depth with
  | nil => simp [Nesting.after, balance]
  | @plain c text seen hQuote _ ih =>
      have hNext := next_plain_of_ne_quote depth hQuote
      rw [Nesting.after, List.foldl_cons, hNext,
        ← Nesting.after, ih, balance_cons c seen,
        Int.add_assoc]
  | @hidden quoted text seen hQuoted _ ih =>
      have hScan : Scans ',' (.plain depth) (inQuotes quoted)
          (.plain depth) :=
        scans_inQuotes depth (by decide) hQuoted
      rw [Nesting.after_append, hScan.after_eq, ih]

/-
  A text that leads outside of quotes is shown in part,
  whether it starts outside of quotes, inside of them or at
  an escaped character. The three cases lead to each other,
  so the induction is on all of them at once.
-/
theorem exists_shows_of_after
    (text : List Char)
    (depth : Int) :
    (((Nesting.plain depth).after text).quoted = false →
      ∃ seen, Shows text seen) ∧
    (((Nesting.insideQuotes depth).after text).quoted =
        false →
      ∃ body rest seen, text = body ++ '"' :: rest ∧
        IsEscaped body ∧ Shows rest seen) ∧
    ((Nesting.after ⟨depth, true, true⟩ text).quoted =
        false →
      ∃ c body rest seen, text = c :: body ++ '"' :: rest ∧
        IsEscaped body ∧ Shows rest seen) := by
  induction text generalizing depth with
  | nil =>
      exact ⟨fun _ => ⟨[], .nil⟩, nofun, nofun⟩
  | cons c text ih =>
      refine ⟨?plain, ?quoted, ?escaped⟩
      case plain =>
          intro hEnd
          by_cases hQuote : c = '"'
          · subst hQuote
            obtain ⟨body, rest, seen, rfl, hBody, hRest⟩ :=
              (ih depth).2.1 hEnd
            have hWhole : '"' :: (body ++ '"' :: rest) =
                inQuotes body ++ rest := by
              simp [inQuotes]
            rw [hWhole]
            exact ⟨seen, .hidden hBody hRest⟩
          · have hNext := next_plain_of_ne_quote depth hQuote
            rw [Nesting.after, List.foldl_cons, hNext] at hEnd
            obtain ⟨seen, hText⟩ := (ih _).1 hEnd
            exact ⟨c :: seen, .plain hQuote hText⟩
      case quoted =>
          intro hEnd
          by_cases hQuote : c = '"'
          · subst hQuote
            obtain ⟨seen, hText⟩ := (ih depth).1 hEnd
            exact ⟨[], text, seen, rfl, .nil, hText⟩
          · by_cases hBackslash : c = '\\'
            · subst hBackslash
              obtain ⟨d, body, rest, seen, rfl, hBody, hRest⟩ :=
                (ih depth).2.2 hEnd
              exact ⟨'\\' :: d :: body, rest, seen, rfl,
                .escape d hBody, hRest⟩
            · have hNext :
                  (Nesting.insideQuotes depth).next c =
                    .insideQuotes depth := by
                simp [Nesting.next, Nesting.nextQuoted,
                  Nesting.insideQuotes, hQuote, hBackslash]
              rw [Nesting.after, List.foldl_cons, hNext]
                at hEnd
              obtain ⟨body, rest, seen, rfl, hBody, hRest⟩ :=
                (ih depth).2.1 hEnd
              exact ⟨c :: body, rest, seen, rfl,
                .plain hQuote hBackslash hBody, hRest⟩
      case escaped =>
          intro hEnd
          obtain ⟨body, rest, seen, rfl, hBody, hRest⟩ :=
            (ih depth).2.1 hEnd
          exact ⟨c, body, rest, seen, rfl, hBody, hRest⟩

end Text

end Blueprint

------------------------------------------------------------
-- What a Text Shows
------------------------------------------------------------

namespace Blueprint

namespace Text

variable {text seen : List Char}

/- A character outside quotes is shown. -/
theorem exists_of_shows_cons
    {c : Char}
    (hQuote : c ≠ '"')
    (hText : Shows (c :: text) seen) :
    ∃ rest, seen = c :: rest ∧ Shows text rest := by
  generalize hWhole : c :: text = whole at hText
  cases hText with
  | nil => cases hWhole
  | plain _ hRest =>
      cases hWhole
      exact ⟨_, rfl, hRest⟩
  | hidden _ _ =>
      exact absurd (List.cons.inj hWhole).1 hQuote

/- A text in quotes is not shown. -/
theorem shows_of_inQuotes_append
    {quoted : List Char}
    (hQuoted : IsEscaped quoted)
    (hText : Shows (inQuotes quoted ++ text) seen) :
    Shows text seen := by
  generalize hWhole : inQuotes quoted ++ text = whole at hText
  cases hText with
  | nil => cases hWhole
  | plain hQuote _ =>
      exact absurd (List.cons.inj hWhole).1.symm hQuote
  | @hidden other rest _ hOther hRest =>
      have hFirst := quoted?_inQuotes text hQuoted
      have hSecond := quoted?_inQuotes rest hOther
      rw [hWhole, hSecond, Option.some.injEq,
        Prod.mk.injEq] at hFirst
      rwa [← hFirst.2]

/- What a text shows is determined by the text. -/
theorem Shows.unique
    {other : List Char}
    (hText : Shows text seen)
    (hOther : Shows text other) :
    seen = other := by
  induction hText generalizing other with
  | nil =>
      generalize hWhole : [] = whole at hOther
      cases hOther with
      | nil => rfl
      | plain => cases hWhole
      | hidden => cases hWhole
  | plain hQuote _ ih =>
      obtain ⟨rest, rfl, hRest⟩ :=
        exists_of_shows_cons hQuote hOther
      rw [ih hRest]
  | hidden hQuoted _ ih =>
      exact ih (shows_of_inQuotes_append hQuoted hOther)

/- Texts that close their quotes show one after the other. -/
theorem Shows.append
    {more rest : List Char}
    (hText : Shows text seen)
    (hMore : Shows more rest) :
    Shows (text ++ more) (seen ++ rest) := by
  induction hText with
  | nil => exact hMore
  | plain hQuote _ ih => exact .plain hQuote ih
  | hidden hQuoted _ ih =>
      rw [List.append_assoc]
      exact .hidden hQuoted ih

end Text

end Blueprint

------------------------------------------------------------
-- Open and Stray Brackets
------------------------------------------------------------

namespace Blueprint

namespace Text

/-
  The number of brackets that are open after some
  characters, when `opened` of them were open before. A
  closing bracket with nothing open closes nothing.
-/
def openFrom
    (opened : Nat) : List Char → Nat
| [] => opened
| c :: rest =>
    if isOpening c then
      openFrom (opened + 1) rest
    else if isClosing c then
      openFrom (opened - 1) rest
    else
      openFrom opened rest

/- The number of closing brackets with nothing open. -/
def strayFrom
    (opened : Nat) : List Char → Nat
| [] => 0
| c :: rest =>
    if isOpening c then
      strayFrom (opened + 1) rest
    else if isClosing c then
      (if opened = 0 then 1 else 0) +
        strayFrom (opened - 1) rest
    else
      strayFrom opened rest

/- As many brackets are open as were opened and not closed. -/
theorem openFrom_add_countP
    (opened : Nat)
    (seen : List Char) :
    openFrom opened seen + seen.countP isClosing =
      opened + seen.countP isOpening +
        strayFrom opened seen := by
  induction seen generalizing opened with
  | nil => rfl
  | cons c rest ih =>
      rw [openFrom, strayFrom, List.countP_cons,
        List.countP_cons]
      by_cases hOpening : isOpening c = true
      · have hClosing : isClosing c = false := by
          simp only [isOpening, Bool.or_eq_true,
            beq_iff_eq] at hOpening
          rcases hOpening with rfl | rfl <;> rfl
        have hRest := ih (opened + 1)
        rw [if_pos hOpening, if_pos hOpening, if_pos hOpening,
          if_neg (by simp [hClosing])]
        omega
      · rw [if_neg hOpening, if_neg hOpening, if_neg hOpening]
        by_cases hClosing : isClosing c = true
        · have hRest := ih (opened - 1)
          rw [if_pos hClosing, if_pos hClosing,
            if_pos hClosing]
          split <;> omega
        · have hRest := ih opened
          rw [if_neg hClosing, if_neg hClosing,
            if_neg hClosing]
          omega

/- The balance is off by the stray brackets. -/
theorem openFrom_eq_balance_add
    (seen : List Char) :
    (openFrom 0 seen : Int) =
      balance seen + strayFrom 0 seen := by
  have hCount := openFrom_add_countP 0 seen
  rw [balance]
  omega

end Text

end Blueprint

------------------------------------------------------------
-- Places in a Text
------------------------------------------------------------

namespace Blueprint

namespace Text

/-
  Behind the text the quotes are closed, and as many
  brackets have been closed as opened.
-/
def IsLevel (text : List Char) : Prop :=
  ∃ seen, Shows text seen ∧ balance seen = 0

/-
  Behind the text the quotes are closed, and no bracket is
  open.
-/
def IsUnenclosed (text : List Char) : Prop :=
  ∃ seen, Shows text seen ∧ openFrom 0 seen = 0

/- The text closes its quotes, and no bracket but open ones. -/
def IsStrayFree (text : List Char) : Prop :=
  ∃ seen, Shows text seen ∧ strayFrom 0 seen = 0

variable {text : List Char}

/- A scan stands at the top level behind level texts. -/
theorem isTopLevel_after_iff :
    (Nesting.outermost.after text).isTopLevel = true ↔
      IsLevel text := by
  constructor
  · intro hTop
    simp only [Nesting.isTopLevel, Bool.and_eq_true,
      Bool.not_eq_true', beq_iff_eq] at hTop
    obtain ⟨seen, hText⟩ :=
      (exists_shows_of_after text 0).1 hTop.1
    have hAfter : Nesting.outermost.after text =
        .plain (0 + balance seen) :=
      hText.after_plain 0
    rw [hAfter] at hTop
    have hDepth : 0 + balance seen = 0 := hTop.2
    exact ⟨seen, hText, by omega⟩
  · rintro ⟨seen, hText, hBalance⟩
    have hAfter : Nesting.outermost.after text =
        .plain (0 + balance seen) :=
      hText.after_plain 0
    rw [hAfter, hBalance]
    rfl

/- Without stray brackets, level places are the unenclosed. -/
theorem IsStrayFree.isLevel_iff
    (hText : IsStrayFree text) :
    IsLevel text ↔ IsUnenclosed text := by
  obtain ⟨seen, hSeen, hStray⟩ := hText
  have hOpen := openFrom_eq_balance_add seen
  constructor
  · rintro ⟨other, hOther, hBalance⟩
    rw [← hSeen.unique hOther] at hBalance
    exact ⟨seen, hSeen, by omega⟩
  · rintro ⟨other, hOther, hNone⟩
    rw [← hSeen.unique hOther] at hNone
    exact ⟨seen, hSeen, by omega⟩

/- Behind a stray bracket, no place is of both sorts. -/
theorem isStrayFree_of_isLevel_of_isUnenclosed
    (hLevel : IsLevel text)
    (hUnenclosed : IsUnenclosed text) :
    IsStrayFree text := by
  obtain ⟨seen, hSeen, hBalance⟩ := hLevel
  obtain ⟨other, hOther, hNone⟩ := hUnenclosed
  rw [← hSeen.unique hOther] at hNone
  have hOpen := openFrom_eq_balance_add seen
  exact ⟨seen, hSeen, by omega⟩

end Text

end Blueprint

------------------------------------------------------------
-- First Cuts
------------------------------------------------------------

namespace Blueprint

namespace Text

/-
  The parts before and after the first occurrence of
  `target` at a place that qualifies, or nothing when there
  is none. A place is told by the text before it.
-/
inductive FirstCut
    (qualifies : List Char → Prop)
    (target : Char)
    (text : List Char) :
    Option (List Char × List Char) → Prop
| found
    {before after : List Char}
    (place : text = before ++ target :: after)
    (here : qualifies before)
    (first : ∀ earlier later,
      text = earlier ++ target :: later →
        qualifies earlier → before.length ≤ earlier.length) :
    FirstCut qualifies target text (some (before, after))
| absent
    (nowhere : ∀ before after,
      text = before ++ target :: after →
        ¬ qualifies before) :
    FirstCut qualifies target text none

variable {qualifies : List Char → Prop}
variable {target : Char}
variable {text : List Char}

/- The target at the start is the first one, if it qualifies. -/
theorem FirstCut.here
    (rest : List Char)
    (hStart : qualifies []) :
    FirstCut qualifies target (target :: rest)
      (some ([], rest)) :=
  .found rfl hStart fun _ _ _ _ => Nat.zero_le _

/- Otherwise the first cut is that of the rest. -/
theorem FirstCut.cons
    {c : Char}
    {rest : List Char}
    {cut : Option (List Char × List Char)}
    (hStart : ¬ (qualifies [] ∧ c = target))
    (hRest : FirstCut (fun before => qualifies (c :: before))
      target rest cut) :
    FirstCut qualifies target (c :: rest)
      (cut.map fun (before, after) => (c :: before, after)) := by
  have hFirst : ∀ later, c :: rest = target :: later →
      ¬ qualifies [] := by
    intro later hSame hEmpty
    exact hStart ⟨hEmpty, (List.cons.inj hSame).1⟩
  cases hRest with
  | absent hNowhere =>
      refine .absent ?_
      intro before after hText hHere
      cases before with
      | nil => exact hFirst after hText hHere
      | cons d before =>
          obtain ⟨rfl, hRest⟩ := List.cons.inj hText
          exact hNowhere before after hRest hHere
  | @found before after hPlace hHere hLeast =>
      refine .found (congrArg (c :: ·) hPlace) hHere ?_
      intro earlier later hText hEarly
      cases earlier with
      | nil => exact absurd hEarly (hFirst later hText)
      | cons d earlier =>
          obtain ⟨rfl, hRest⟩ := List.cons.inj hText
          exact Nat.succ_le_succ
            (hLeast earlier later hRest hEarly)

/- Every text has a first cut, or none. -/
theorem FirstCut.exists
    (qualifies : List Char → Prop)
    (target : Char)
    (text : List Char) :
    ∃ cut, FirstCut qualifies target text cut := by
  induction text generalizing qualifies with
  | nil =>
      refine ⟨none, .absent ?_⟩
      intro before after hText
      simp at hText
  | cons c rest ih =>
      by_cases hStart : qualifies [] ∧ c = target
      · obtain ⟨hEmpty, rfl⟩ := hStart
        exact ⟨_, .here rest hEmpty⟩
      · obtain ⟨cut, hRest⟩ :=
          ih fun before => qualifies (c :: before)
        exact ⟨_, .cons hStart hRest⟩

/- Cuts of one text are the same if they are equally long. -/
theorem eq_of_length_eq
    {before after earlier later : List Char}
    (hText : text = before ++ target :: after)
    (hOther : text = earlier ++ target :: later)
    (hLength : before.length = earlier.length) :
    before = earlier ∧ after = later := by
  rw [hText] at hOther
  obtain ⟨hBefore, hAfter⟩ :=
    List.append_inj hOther hLength
  exact ⟨hBefore, (List.cons.inj hAfter).2⟩

/- There is only one first cut. -/
theorem FirstCut.unique
    {cut other : Option (List Char × List Char)}
    (hCut : FirstCut qualifies target text cut)
    (hOther : FirstCut qualifies target text other) :
    cut = other := by
  cases hCut with
  | absent hNowhere =>
      cases hOther with
      | absent _ => rfl
      | found hPlace hHere _ =>
          exact absurd hHere (hNowhere _ _ hPlace)
  | found hPlace hHere hFirst =>
      cases hOther with
      | absent hNowhere =>
          exact absurd hHere (hNowhere _ _ hPlace)
      | found hThere hOtherHere hOtherFirst =>
          have hLength := Nat.le_antisymm
            (hFirst _ _ hThere hOtherHere)
            (hOtherFirst _ _ hPlace hHere)
          obtain ⟨rfl, rfl⟩ :=
            eq_of_length_eq hPlace hThere hLength
          rfl

/- A scan cuts where it first stands at the top level. -/
theorem firstCut_cutTopLevelFrom
    (target : Char)
    (n : Nesting)
    (text : List Char) :
    FirstCut
      (fun before => (n.after before).isTopLevel = true)
      target text (cutTopLevelFrom target n text) := by
  induction text generalizing n with
  | nil =>
      refine .absent ?_
      intro before after hText
      simp at hText
  | cons c rest ih =>
      rw [cutTopLevelFrom]
      by_cases hHere : (n.isTopLevel && c == target) = true
      · rw [if_pos hHere]
        rw [Bool.and_eq_true, beq_iff_eq] at hHere
        obtain ⟨hTop, rfl⟩ := hHere
        exact .here rest hTop
      · rw [if_neg hHere]
        rw [Bool.and_eq_true, beq_iff_eq] at hHere
        exact .cons hHere (ih (n.next c))

end Text

end Blueprint

------------------------------------------------------------
-- Cuts at the Top Level
------------------------------------------------------------

namespace Blueprint

namespace Text

variable {target : Char}
variable {text : List Char}

/- The cut at the top level is the first one at a level place. -/
theorem firstCut_cutTopLevel
    (target : Char)
    (text : List Char) :
    FirstCut IsLevel target text (cutTopLevel target text) := by
  have hSame : (fun before => (Nesting.outermost.after
      before).isTopLevel = true) = IsLevel := by
    funext before
    exact propext isTopLevel_after_iff
  have hCut := firstCut_cutTopLevelFrom target .outermost text
  rwa [hSame] at hCut

/- What is scanned from the top level to it is level. -/
theorem Scans.isLevel
    {text : List Char}
    (hText : Scans target .outermost text .outermost) :
    IsLevel text := by
  rw [← isTopLevel_after_iff, hText.after_eq]
  rfl

/- No target stands at the top level of what is scanned. -/
theorem Scans.isTopLevel_after_eq_false
    {n m : Nesting}
    {text before after : List Char}
    (hText : Scans target n text m)
    (hPlace : text = before ++ target :: after) :
    (n.after before).isTopLevel = false := by
  induction hText generalizing before with
  | nil => cases before <;> cases hPlace
  | cons hHidden _ ih =>
      cases before with
      | nil =>
          cases hPlace
          rwa [beq_self_eq_true, Bool.and_true] at hHidden
      | cons first before =>
          cases hPlace
          exact ih rfl

/- So no text before a target is level. -/
theorem Scans.not_isLevel
    {m : Nesting}
    {text before after : List Char}
    (hText : Scans target .outermost text m)
    (hPlace : text = before ++ target :: after) :
    ¬ IsLevel before := by
  rw [← isTopLevel_after_iff,
    hText.isTopLevel_after_eq_false hPlace]
  exact Bool.false_ne_true

/- A level text without level targets is what is cut off. -/
theorem cutTopLevel_append_cons
    {before : List Char}
    (after : List Char)
    (hLevel : IsLevel before)
    (hFirst : ∀ earlier later,
      before = earlier ++ target :: later →
        ¬ IsLevel earlier) :
    cutTopLevel target (before ++ target :: after) =
      some (before, after) := by
  refine (firstCut_cutTopLevel target _).unique
    (.found rfl hLevel ?_)
  intro earlier later hText hEarly
  rcases List.append_eq_append_iff.mp hText with
    ⟨more, rfl, _⟩ | ⟨more, rfl, hMore⟩
  · rw [List.length_append]
    omega
  · cases more with
    | nil => simp
    | cons c more =>
        obtain ⟨rfl, _⟩ := List.cons.inj hMore
        exact absurd hEarly (hFirst earlier more rfl)

/-
  The cut at the top level is the first one outside of all
  brackets, unless a stray bracket stands before the first
  target that is either level or outside of all brackets.
-/
theorem firstCut_isUnenclosed_iff
    (target : Char)
    (text : List Char) :
    FirstCut IsUnenclosed target text
        (cutTopLevel target text) ↔
      ∀ before after,
        FirstCut
          (fun place => IsLevel place ∨ IsUnenclosed place)
          target text (some (before, after)) →
            IsStrayFree before := by
  have hLevel := firstCut_cutTopLevel target text
  generalize cutTopLevel target text = cut at hLevel ⊢
  constructor
  · intro hUnenclosed before after hEither
    cases hEither with
    | found hPlace hHere hFirst =>
        cases hLevel with
        | absent hNoLevel =>
            cases hUnenclosed with
            | absent hNone =>
                rcases hHere with hHere | hHere
                · exact absurd hHere (hNoLevel _ _ hPlace)
                · exact absurd hHere (hNone _ _ hPlace)
        | found hThere hBoth hFirstLevel =>
            cases hUnenclosed with
            | found _ hOpen hFirstOpen =>
                have hLower := hFirst _ _ hThere (.inl hBoth)
                have hUpper := hHere.elim
                  (hFirstLevel _ _ hPlace)
                  (hFirstOpen _ _ hPlace)
                obtain ⟨rfl, _⟩ := eq_of_length_eq hPlace
                  hThere (Nat.le_antisymm hLower hUpper)
                exact isStrayFree_of_isLevel_of_isUnenclosed
                  hBoth hOpen
  · intro hStray
    obtain ⟨either, hEither⟩ := FirstCut.exists
      (fun place => IsLevel place ∨ IsUnenclosed place)
      target text
    cases hEither with
    | absent hNeither =>
        cases hLevel with
        | absent _ =>
            refine .absent ?_
            intro before after hPlace hOpen
            exact hNeither before after hPlace (.inr hOpen)
        | found hPlace hHere _ =>
            exact absurd (.inl hHere) (hNeither _ _ hPlace)
    | found hPlace hHere hFirst =>
        have hFree :=
          hStray _ _ (.found hPlace hHere hFirst)
        have hBoth : IsLevel _ :=
          hHere.elim id hFree.isLevel_iff.mpr
        have hCut := hLevel.unique (.found hPlace hBoth
          fun earlier later hText hEarly =>
            hFirst earlier later hText (.inl hEarly))
        rw [hCut]
        exact .found hPlace (hFree.isLevel_iff.mp hBoth)
          fun earlier later hText hOpen =>
            hFirst earlier later hText (.inr hOpen)

/- Blanks in front do not change what is level. -/
theorem isLevel_append_of_blank
    {before : List Char}
    (text : List Char)
    (hBefore : ∀ c ∈ before, isBlank c = true) :
    IsLevel (before ++ text) ↔ IsLevel text := by
  have hPlain : ∀ c ∈ before, IsPlain c := by
    intro c hMem
    have hBlank := hBefore c hMem
    refine ⟨?_, ?_, ?_, ?_, ?_⟩ <;>
      (rintro rfl; exact absurd hBlank (by decide))
  have hScan : Scans '"' .outermost before .outermost :=
    scans_plain 0 hPlain fun _ hMem => (hPlain _ hMem).1 rfl
  rw [← isTopLevel_after_iff, Nesting.after_append,
    hScan.after_eq, isTopLevel_after_iff]

end Text

end Blueprint
