import Blueprint.Proofs.Text.Quoted
import Blueprint.Proofs.Text.Split
import Blueprint.Text.TopLevel

/-
  Scans that meet no target at the top level. A text that is
  scanned so is neither cut nor split, whatever delimiters
  it holds in quotes and brackets.

  Main definitions:
    * `Scans`
    * `IsPlain`
    * `IsBalancedFrom`

  Main statements:
    * `Scans.append`
    * `Scans.cutTopLevelFrom_append`
    * `scans_plain`, `scans_inQuotes`, `scans_bracketed`
    * `scans_balanced`
    * `topLevelItems_joinWith`
-/

------------------------------------------------------------
-- Scans
------------------------------------------------------------

namespace Blueprint

namespace Text

variable {target : Char}

/-
  A scan over a text leads from one nesting to another, and
  meets no target at the top level on the way.
-/
inductive Scans
    (target : Char) :
    Nesting → List Char → Nesting → Prop
| nil (n : Nesting) : Scans target n [] n
| cons
    {n m : Nesting}
    {c : Char}
    {text : List Char}
    (hHidden : (n.isTopLevel && c == target) = false)
    (hRest : Scans target (n.next c) text m) :
    Scans target n (c :: text) m

/- A scan may be continued from where a character leads. -/
theorem Scans.step
    {n m k : Nesting}
    {c : Char}
    {text : List Char}
    (hHidden : (n.isTopLevel && c == target) = false)
    (hNext : n.next c = k)
    (hRest : Scans target k text m) :
    Scans target n (c :: text) m := by
  subst hNext
  exact .cons hHidden hRest

/- Scans one after the other are one scan. -/
theorem Scans.append
    {n m k : Nesting}
    {first second : List Char}
    (hFirst : Scans target n first m)
    (hSecond : Scans target m second k) :
    Scans target n (first ++ second) k := by
  induction hFirst with
  | nil => exact hSecond
  | cons hHidden _ ih => exact .cons hHidden (ih hSecond)

/- A scanned text is not cut. -/
theorem Scans.cutTopLevelFrom_append
    {n m : Nesting}
    {text : List Char}
    (hText : Scans target n text m)
    (rest : List Char) :
    cutTopLevelFrom target n (text ++ rest) =
      (cutTopLevelFrom target m rest).map
        fun (before, after) => (text ++ before, after) := by
  induction hText with
  | nil => simp
  | cons hHidden _ ih =>
      rw [List.cons_append, cutTopLevelFrom, hHidden,
        if_neg Bool.false_ne_true, ih, Option.map_map]
      rfl

/- A scanned text goes to the first piece as a whole. -/
theorem Scans.topLevelPiecesFrom_append
    {n m : Nesting}
    {text rest piece : List Char}
    {more : List (List Char)}
    (hText : Scans ',' n text m)
    (hRest : topLevelPiecesFrom m rest = piece :: more) :
    topLevelPiecesFrom n (text ++ rest) =
      (text ++ piece) :: more := by
  induction hText with
  | nil => exact hRest
  | cons hHidden _ ih =>
      rw [List.cons_append, topLevelPiecesFrom, hHidden,
        if_neg Bool.false_ne_true, ih hRest]
      rfl

end Text

end Blueprint

------------------------------------------------------------
-- Plain and Quoted Parts
------------------------------------------------------------

namespace Blueprint

namespace Text

variable {target : Char}

namespace Nesting

/- Outside quotes, at a depth. -/
def plain (depth : Int) : Nesting where
  depth := depth
  quoted := false
  escaped := false

/- Inside quotes that were opened at a depth. -/
def insideQuotes (depth : Int) : Nesting where
  depth := depth
  quoted := true
  escaped := false

end Nesting

/- A character that is neither a quote nor a bracket. -/
def IsPlain (c : Char) : Prop :=
  c ≠ '"' ∧ c ≠ '(' ∧ c ≠ '[' ∧ c ≠ ')' ∧ c ≠ ']'

instance (c : Char) : Decidable (IsPlain c) :=
  inferInstanceAs (Decidable (_ ∧ _))

/- A plain character does not change the nesting. -/
theorem next_plain
    {c : Char}
    (depth : Int)
    (hPlain : IsPlain c) :
    (Nesting.plain depth).next c = .plain depth := by
  rcases hPlain with ⟨hQuote, hRound, hSquare, hEnd, hStop⟩
  simp [Nesting.next, Nesting.nextPlain, Nesting.plain,
    hQuote, hRound, hSquare, hEnd, hStop]

/- Nothing is at the top level at another depth. -/
theorem isTopLevel_plain_of_ne_zero
    {depth : Int}
    (hDepth : depth ≠ 0) :
    (Nesting.plain depth).isTopLevel = false := by
  simpa [Nesting.isTopLevel, Nesting.plain] using hDepth

/- What is not the target is hidden anywhere. -/
theorem hidden_of_ne
    {c : Char}
    (n : Nesting)
    (hTarget : c ≠ target) :
    (n.isTopLevel && c == target) = false := by
  simp [hTarget]

/- Only the target at depth zero is not hidden. -/
theorem hidden_plain
    {depth : Int}
    {c : Char}
    (hTarget : depth = 0 → c ≠ target) :
    ((Nesting.plain depth).isTopLevel && c == target) =
      false := by
  by_cases hDepth : depth = 0
  · exact hidden_of_ne _ (hTarget hDepth)
  · rw [isTopLevel_plain_of_ne_zero hDepth, Bool.false_and]

/-
  A plain text is scanned at any depth. At depth zero it
  must not hold the target.
-/
theorem scans_plain
    {text : List Char}
    (depth : Int)
    (hText : ∀ c ∈ text, IsPlain c)
    (hTarget : depth = 0 → target ∉ text) :
    Scans target (.plain depth) text (.plain depth) := by
  induction text with
  | nil => exact .nil _
  | cons c text ih =>
      have hPlain := hText c List.mem_cons_self
      have hFirst : depth = 0 → c ≠ target := by
        rintro hDepth rfl
        exact hTarget hDepth List.mem_cons_self
      have hRest := ih
        (fun d hMem => hText d (List.mem_cons_of_mem _ hMem))
        (fun hDepth hMem =>
          hTarget hDepth (List.mem_cons_of_mem _ hMem))
      exact .step (hidden_plain hFirst)
        (next_plain depth hPlain) hRest

/- An escaped text does not close the quotes around it. -/
theorem scans_escaped
    {text : List Char}
    (depth : Int)
    (hText : IsEscaped text) :
    Scans target (.insideQuotes depth) text
      (.insideQuotes depth) := by
  induction hText with
  | nil => exact .nil _
  | escape c _ ih => exact .cons rfl (.cons rfl ih)
  | @plain c text hQuote hBackslash _ ih =>
      have hNext :
          (Nesting.insideQuotes depth).next c =
            .insideQuotes depth := by
        simp [Nesting.next, Nesting.nextQuoted,
          Nesting.insideQuotes, hQuote, hBackslash]
      exact .step rfl hNext ih

/- An escaped text in quotes is scanned at any depth. -/
theorem scans_inQuotes
    {text : List Char}
    (depth : Int)
    (hTarget : '"' ≠ target)
    (hText : IsEscaped text) :
    Scans target (.plain depth) (inQuotes text)
      (.plain depth) := by
  have hEnd : Scans target (.insideQuotes depth) ['"']
      (.plain depth) :=
    .cons rfl (.nil _)
  have hInner := (scans_escaped depth hText).append hEnd
  exact .cons (hidden_of_ne _ hTarget) hInner

end Text

end Blueprint

------------------------------------------------------------
-- Bracketed Parts
------------------------------------------------------------

namespace Blueprint

namespace Text

variable {target : Char}

/- An opening bracket leads one level down. -/
theorem next_opening
    {c : Char}
    (depth : Int)
    (hOpening : c = '(' ∨ c = '[') :
    (Nesting.plain depth).next c = .plain (depth + 1) := by
  rcases hOpening with rfl | rfl <;> rfl

/- A closing bracket leads one level up. -/
theorem next_closing
    {c : Char}
    (depth : Int)
    (hClosing : c = ')' ∨ c = ']') :
    (Nesting.plain (depth + 1)).next c = .plain depth := by
  have hNext : (Nesting.plain (depth + 1)).next c =
      .plain (depth + 1 - 1) := by
    rcases hClosing with rfl | rfl <;> rfl
  rw [hNext, Int.add_sub_cancel]

/- A text in parentheses is scanned where its inside is. -/
theorem scans_bracketed
    {text : List Char}
    (depth : Int)
    (hOpening : '(' ≠ target)
    (hClosing : ')' ≠ target)
    (hText : Scans target (.plain (depth + 1)) text
      (.plain (depth + 1))) :
    Scans target (.plain depth) ('(' :: text ++ [')'])
      (.plain depth) := by
  have hEnd : Scans target (.plain (depth + 1)) [')']
      (.plain depth) :=
    .step (hidden_of_ne _ hClosing)
      (next_closing depth (.inl rfl)) (.nil _)
  exact .step (hidden_of_ne _ hOpening)
    (next_opening depth (.inl rfl)) (hText.append hEnd)

/-
  A text that closes its quotes and its brackets, when
  `depth` brackets have been opened before it. It never
  closes more brackets than there are open, and closes all
  of them in the end.
-/
inductive IsBalancedFrom : Nat → List Char → Prop
| nil : IsBalancedFrom 0 []
| plain
    {depth : Nat}
    {c : Char}
    {rest : List Char}
    (hPlain : IsPlain c)
    (hRest : IsBalancedFrom depth rest) :
    IsBalancedFrom depth (c :: rest)
| inQuotes
    {depth : Nat}
    {text rest : List Char}
    (hText : IsEscaped text)
    (hRest : IsBalancedFrom depth rest) :
    IsBalancedFrom depth (inQuotes text ++ rest)
| opening
    {depth : Nat}
    {c : Char}
    {rest : List Char}
    (hOpening : c = '(' ∨ c = '[')
    (hRest : IsBalancedFrom (depth + 1) rest) :
    IsBalancedFrom depth (c :: rest)
| closing
    {depth : Nat}
    {c : Char}
    {rest : List Char}
    (hClosing : c = ')' ∨ c = ']')
    (hRest : IsBalancedFrom depth rest) :
    IsBalancedFrom (depth + 1) (c :: rest)

/- A plain text may stand in front of a balanced one. -/
theorem isBalancedFrom_append
    {depth : Nat}
    {text rest : List Char}
    (hText : ∀ c ∈ text, IsPlain c)
    (hRest : IsBalancedFrom depth rest) :
    IsBalancedFrom depth (text ++ rest) := by
  induction text with
  | nil => exact hRest
  | cons c text ih =>
      have hFirst := hText c List.mem_cons_self
      exact .plain hFirst (ih fun d hMem =>
        hText d (List.mem_cons_of_mem _ hMem))

/-
  A balanced text in brackets is scanned, whatever the
  target is: at no point is the scan at the top level.
-/
theorem scans_balanced
    {depth : Nat}
    {text : List Char}
    (hTarget : '"' ≠ target)
    (hText : IsBalancedFrom depth text) :
    Scans target (.plain (1 + depth)) text (.plain 1) := by
  have hHidden : ∀ (depth : Nat) (c : Char),
      ((Nesting.plain (1 + depth)).isTopLevel &&
        c == target) = false :=
    fun depth c => hidden_plain (by omega)
  induction hText with
  | nil => exact .nil _
  | @plain depth c rest hPlain _ ih =>
      exact .step (hHidden depth c) (next_plain _ hPlain) ih
  | @inQuotes depth text rest hEscaped _ ih =>
      exact (scans_inQuotes _ hTarget hEscaped).append ih
  | @opening depth c rest hOpening _ ih =>
      rw [Int.natCast_succ, ← Int.add_assoc] at ih
      exact .step (hHidden depth c)
        (next_opening _ hOpening) ih
  | @closing depth c rest hClosing _ ih =>
      have hStart := hHidden (depth + 1) c
      rw [Int.natCast_succ, ← Int.add_assoc] at hStart ⊢
      exact .step hStart (next_closing _ hClosing) ih

end Text

end Blueprint

------------------------------------------------------------
-- Items of a List
------------------------------------------------------------

namespace Blueprint

namespace Text

/- A text that is scanned to its end is one piece. -/
theorem Scans.topLevelPiecesFrom_eq
    {n m : Nesting}
    {text : List Char}
    (hText : Scans ',' n text m) :
    topLevelPiecesFrom n text = [text] := by
  have hNone : topLevelPiecesFrom m [] = [[]] := rfl
  have hPieces := hText.topLevelPiecesFrom_append hNone
  rwa [List.append_nil] at hPieces

/- There is always a piece. -/
theorem topLevelPiecesFrom_ne_nil
    (n : Nesting)
    (text : List Char) :
    topLevelPiecesFrom n text ≠ [] := by
  cases text with
  | nil => simp [topLevelPiecesFrom]
  | cons c rest =>
      unfold topLevelPiecesFrom
      split
      · simp
      · split <;> simp

/- A space in front of the first piece is trimmed away. -/
theorem map_trim_topLevelPieces_space
    (text : List Char) :
    (topLevelPieces (' ' :: text)).map trim =
      (topLevelPieces text).map trim := by
  have hSpace : ∀ c ∈ [' '], IsPlain c := by
    simp [IsPlain]
  have hScan : Scans ',' .outermost [' '] .outermost :=
    scans_plain 0 hSpace (by simp)
  cases hPieces : topLevelPieces text with
  | nil => exact absurd hPieces (topLevelPiecesFrom_ne_nil _ _)
  | cons piece more =>
      have hTrim : trim (' ' :: piece) = trim piece :=
        trim_cons_of_blank piece (by decide)
      have hWhole : topLevelPieces ([' '] ++ text) =
          ([' '] ++ piece) :: more :=
        hScan.topLevelPiecesFrom_append hPieces
      rw [List.singleton_append,
        List.singleton_append] at hWhole
      rw [hWhole, List.map_cons, List.map_cons, hTrim]

/- A list is scanned when its items and its marks are. -/
theorem scans_joinWith
    {target : Char}
    {n : Nesting}
    {mark : List Char}
    {items : List (List Char)}
    (hMark : Scans target n mark n)
    (hItems : ∀ item ∈ items, Scans target n item n) :
    Scans target n (joinWith mark items) n := by
  induction items with
  | nil => exact .nil _
  | cons first items ih =>
      have hFirst := hItems first List.mem_cons_self
      cases items with
      | nil => exact hFirst
      | cons second items =>
          have hRest := ih fun item hMem =>
            hItems item (List.mem_cons_of_mem _ hMem)
          rw [joinWith_cons_cons]
          exact (hFirst.append hMark).append hRest

/- A list of solid items is solid. -/
theorem isSolid_joinWith
    {mark : List Char}
    {items : List (List Char)}
    (hSome : items ≠ [])
    (hItems : ∀ item ∈ items, IsSolid item) :
    IsSolid (joinWith mark items) := by
  induction items with
  | nil => exact absurd rfl hSome
  | cons first items ih =>
      have hFirst := hItems first List.mem_cons_self
      cases items with
      | nil => exact hFirst
      | cons second items =>
          have hRest := ih (List.cons_ne_nil _ _)
            fun item hMem =>
              hItems item (List.mem_cons_of_mem _ hMem)
          rw [joinWith_cons_cons]
          exact hFirst.append hRest mark

/-
  Solid items without a comma at the top level are read back
  from a list that is written with commas and spaces.
-/
theorem topLevelItems_joinWith
    {items : List (List Char)}
    (hSolid : ∀ item ∈ items, IsSolid item)
    (hScans : ∀ item ∈ items,
      Scans ',' .outermost item .outermost) :
    topLevelItems (joinWith [',', ' '] items) = items := by
  have hPieces : items ≠ [] →
      (topLevelPieces (joinWith [',', ' '] items)).map trim =
        items := by
    intro hSome
    induction items with
    | nil => exact absurd rfl hSome
    | cons first items ih =>
        have hFirst := hScans first List.mem_cons_self
        have hTrim := (hSolid first List.mem_cons_self).trim_eq
        cases items with
        | nil =>
            have hOne := hFirst.topLevelPiecesFrom_eq
            rw [joinWith, topLevelPieces, hOne,
              List.map_singleton, hTrim]
        | cons second items =>
            have hRest := ih
              (fun item hMem =>
                hSolid item (List.mem_cons_of_mem _ hMem))
              (fun item hMem =>
                hScans item (List.mem_cons_of_mem _ hMem))
              (List.cons_ne_nil _ _)
            have hComma : ∀ text : List Char,
                topLevelPiecesFrom .outermost (',' :: text) =
                  [] :: topLevelPieces text :=
              fun text => rfl
            have hWhole :=
              hFirst.topLevelPiecesFrom_append (hComma
                (' ' :: joinWith [',', ' ']
                  (second :: items)))
            rw [joinWith_cons_cons, List.append_assoc,
              topLevelPieces]
            dsimp only [List.cons_append, List.nil_append]
            rw [hWhole, List.map_cons, List.append_nil,
              hTrim, map_trim_topLevelPieces_space, hRest]
  unfold topLevelItems
  cases items with
  | nil => rfl
  | cons first items =>
      have hJoined : IsSolid (joinWith [',', ' ']
          (first :: items)) :=
        isSolid_joinWith (List.cons_ne_nil _ _) hSolid
      have hBlank : ¬ isBlankText (joinWith [',', ' ']
          (first :: items)) = true := by
        rw [isBlankText, hJoined.trim_eq, List.isEmpty_iff]
        exact hJoined.ne_nil
      rw [if_neg hBlank, hPieces (List.cons_ne_nil _ _)]

end Text

end Blueprint
