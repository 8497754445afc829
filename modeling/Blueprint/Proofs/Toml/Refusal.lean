import Blueprint.Proofs.Reading.Blockwise
import Blueprint.Proofs.Text.Blank
import Blueprint.Proofs.Text.Identifier
import Blueprint.Proofs.Text.Split
import Blueprint.Toml.Document

/-
  No text is both a specification and a TOML document: where
  a specification names its app, a document would have to
  assign a value to the key `app`, and no equals sign
  follows.

  Main definitions:
    * `significantFrom`
    * `Toml.IsStuck`

  Main statements:
    * `prefix_significantFrom`
    * `Toml.isStuck_or_eq_significantFrom`
    * `Toml.readDocument?_eq_none_of_parse`
-/

------------------------------------------------------------
-- The First Significant Character
------------------------------------------------------------

namespace Blueprint

open Text

/-
  The text from its first character that is neither blank
  nor part of a comment, read from inside or outside a
  comment.
-/
def significantFrom (inComment : Bool) :
    List Char → List Char
| [] => []
| c :: rest =>
    if c == '\n' then
      significantFrom false rest
    else if inComment || c == '#' then
      significantFrom true rest
    else if isBlank c then
      significantFrom false rest
    else
      c :: rest

/- A comment goes on up to the end of its line. -/
theorem significantFrom_inComment
    {c : Char}
    (rest : List Char)
    (hBreak : c ≠ '\n') :
    significantFrom true (c :: rest) =
      significantFrom true rest := by
  simp [significantFrom, hBreak]

/- A blank is not significant, and neither is a line break. -/
theorem significantFrom_of_isBlank
    {c : Char}
    (rest : List Char)
    (hBlank : isBlank c = true) :
    significantFrom false (c :: rest) =
      significantFrom false rest := by
  have hMark : c ≠ '#' := by
    rintro rfl
    cases hBlank
  simp [significantFrom, hMark, hBlank]

/- Any other character but the mark of a comment is. -/
theorem significantFrom_cons
    {c : Char}
    (rest : List Char)
    (hMark : c ≠ '#')
    (hBlank : isBlank c = false) :
    significantFrom false (c :: rest) = c :: rest := by
  have hBreak : c ≠ '\n' := by
    rintro rfl
    cases hBlank
  simp [significantFrom, hBreak, hMark, hBlank]

/- The first piece of a text stands at its start. -/
theorem prefix_of_splitWhere_eq_cons
    {p : Char → Bool}
    {text piece : List Char}
    {more : List (List Char)}
    (h : splitWhere p text = piece :: more) :
    piece <+: text := by
  cases hCut : cutAt p text with
  | none =>
      have hWhole := forall_false_of_cutAt_eq_none hCut
      rw [splitWhere_of_forall hWhole] at h
      cases h
      exact List.prefix_rfl
  | some parts =>
      rw [splitWhere_of_cutAt hCut] at h
      cases h
      obtain ⟨c, _, hText, _⟩ := eq_append_of_cutAt hCut
      exact ⟨_, hText.symm⟩

/- The text of the line of a row, if it has one. -/
def textOfRow? (row : List Char) : Option (List Char) :=
  match trim row with
  | [] => none
  | '#' :: _ => none
  | text => some text

/- The first line of rows has the text of the first that has one. -/
theorem text_head?_linesFrom
    (number : Nat)
    (rows : List (List Char)) :
    (linesFrom number rows).head?.map Line.text =
      rows.findSome? textOfRow? := by
  induction rows generalizing number with
  | nil => rfl
  | cons row rows ih =>
      have hRow : (Line.ofRow? number row).map Line.text =
          textOfRow? row := by
        unfold Line.ofRow? textOfRow?
        split <;> simp [*]
      rw [linesFrom, List.findSome?_cons, ← hRow, ← ih]
      cases Line.ofRow? number row <;> rfl

/- A row that starts with a mark of a comment has no text. -/
theorem textOfRow?_comment (row : List Char) :
    textOfRow? ('#' :: row) = none := by
  have hTrim : trim ('#' :: row) = '#' :: trimEnd row := by
    unfold trim
    rw [trimStart_cons rfl]
    exact trimEnd_append_cons [] row rfl
  simp [textOfRow?, hTrim]

/- A blank in front is no part of the text of a row. -/
theorem textOfRow?_cons_of_blank
    {c : Char}
    (row : List Char)
    (hBlank : isBlank c = true) :
    textOfRow? (c :: row) = textOfRow? row := by
  simp only [textOfRow?, trim_cons_of_blank row hBlank]

/- Any other row starts with its text. -/
theorem exists_textOfRow?_eq_some
    {c : Char}
    (row : List Char)
    (hMark : c ≠ '#')
    (hBlank : isBlank c = false) :
    ∃ text, textOfRow? (c :: row) = some text ∧
      text <+: c :: row := by
  have hTrim : trim (c :: row) = c :: trimEnd row := by
    unfold trim
    rw [trimStart_cons hBlank]
    exact trimEnd_append_cons [] row hBlank
  refine ⟨c :: trimEnd row, ?_, ?_⟩
  · rw [textOfRow?, hTrim]
    split
    · rename_i hNil
      cases hNil
    · rename_i hComment
      cases hComment
      exact absurd rfl hMark
    · rfl
  · exact List.prefix_cons_inj c |>.mpr (trimEnd_isPrefix row)

/-
  The first line starts at the first significant character.
  Inside a comment the first row is passed over. The
  induction is on the text, character by character.
-/
theorem prefix_significantFrom
    {inComment : Bool}
    {text first : List Char}
    (h : (if inComment then (rows text).tail
      else rows text).findSome? textOfRow? = some first) :
    first <+: significantFrom inComment text := by
  induction text generalizing inComment with
  | nil => cases inComment <;> cases h
  | cons c text ih =>
      by_cases hBreak : c = '\n'
      · subst hBreak
        apply @ih false
        cases inComment <;> exact h
      obtain ⟨row, more, hRest⟩ :=
        List.exists_cons_of_ne_nil
          (splitWhere_ne_nil (· == '\n') text)
      have hRows : rows (c :: text) = (c :: row) :: more := by
        simp [rows, splitWhere, hBreak, hRest, consFirst]
      have hTail : (rows text).tail = more := by
        rw [rows, hRest, List.tail_cons]
      rw [hRows] at h
      cases inComment with
      | true =>
          rw [significantFrom_inComment text hBreak]
          apply @ih true
          rw [if_pos rfl, hTail]
          exact h
      | false =>
          rw [if_neg Bool.false_ne_true,
            List.findSome?_cons] at h
          by_cases hMark : c = '#'
          · subst hMark
            rw [textOfRow?_comment] at h
            apply @ih true
            rw [if_pos rfl, hTail]
            exact h
          cases hBlank : isBlank c with
          | true =>
              rw [textOfRow?_cons_of_blank row hBlank,
                ← List.findSome?_cons] at h
              rw [significantFrom_of_isBlank text hBlank]
              apply @ih false
              rw [rows, hRest]
              exact h
          | false =>
              obtain ⟨found, hText, hStart⟩ :=
                exists_textOfRow?_eq_some row hMark hBlank
              rw [hText] at h
              cases h
              rw [significantFrom_cons text hMark hBlank]
              exact hStart.trans (List.prefix_cons_inj c |>.mpr
                (prefix_of_splitWhere_eq_cons hRest))

end Blueprint

------------------------------------------------------------
-- Where a Document Gets Stuck
------------------------------------------------------------

namespace Blueprint

namespace Toml

/- No statement starts here, although there is text. -/
def IsStuck (text : List Char) : Prop :=
  text ≠ [] ∧ ∀ p, readStatement? p text = none

/- A header is `app` and, behind blanks, a quote. -/
theorem exists_of_headerName?
    {text name : List Char}
    (h : headerName? text = some name) :
    ∃ after more, text = 'a' :: 'p' :: 'p' :: after ∧
      Text.trimStart after = '"' :: more := by
  obtain ⟨after, hApp, hRest⟩ := Option.bind_eq_some_iff.mp h
  obtain ⟨start, hSkip, hQuoted⟩ :=
    Option.bind_eq_some_iff.mp hRest
  obtain ⟨_, hName, _⟩ := Option.bind_eq_some_iff.mp hQuoted
  have hText := Text.stripStart_eq_some_iff.mp hApp
  have hStart : Text.trimStart after = start := by
    cases after with
    | nil => cases hSkip
    | cons c rest =>
        simp only [Text.skipBlanks?] at hSkip
        split at hSkip
        · rename_i hBlank
          cases hSkip
          unfold Text.trimStart
          rw [List.dropWhile_cons_of_pos hBlank]
        · cases hSkip
  unfold Text.quoted? at hName
  split at hName
  · rename_i more
    exact ⟨after, more, hText, hStart⟩
  · cases hName

/- A document that gets stuck behind its space is refused. -/
theorem readStatements?_eq_none
    {limit : Nat}
    {p : Progress}
    {text : List Char}
    (h : IsStuck (dropSpace text)) :
    readStatements? limit p text = none := by
  cases limit with
  | zero => rfl
  | succ limit =>
      unfold readStatements?
      split
      · rename_i hEnd
        exact absurd hEnd h.1
      · rename_i hStart
        simp [h.2 p]

/- A blank is no part of a key. -/
theorem isKeyChar_of_isBlank
    {c : Char}
    (h : Text.isBlank c = true) :
    isKeyChar c = false := by
  have hChar : Text.isIdentifierChar c = false := by
    by_contra hNot
    rw [Text.isBlank_of_isIdentifierChar (by simpa using hNot)]
      at h
    cases h
  have hDash : c ≠ '-' := by
    rintro rfl
    cases h
  simp only [Text.isIdentifierChar, Bool.or_eq_false_iff] at hChar
  simp [isKeyChar, hChar.1, hChar.2, hDash]

/- Text that starts with no bracket is read as an assignment. -/
theorem readStatement?_cons
    {c : Char}
    (p : Progress)
    (rest : List Char)
    (hOpens : c ≠ '[') :
    readStatement? p (c :: rest) =
      readAssignment? p (c :: rest) := by
  unfold readStatement?
  split
  · rename_i hText
    cases hText
    exact absurd rfl hOpens
  · rename_i hText
    cases hText
    exact absurd rfl hOpens
  · rfl

/- No key starts with a character that keys cannot hold. -/
theorem isStuck_cons
    {c : Char}
    (rest : List Char)
    (hBlank : isBlank c = false)
    (hKey : isKeyChar c = false)
    (hOpens : c ≠ '[' ∧ c ≠ '"' ∧ c ≠ '\'') :
    IsStuck (c :: rest) := by
  refine ⟨List.cons_ne_nil _ _, ?_⟩
  intro p
  have hDrop : dropBlanks (c :: rest) = c :: rest := by
    simp [dropBlanks, hBlank]
  have hPart : readPart? (c :: rest) = none := by
    unfold readPart?
    rw [List.takeWhile_cons_of_neg (by simp [hKey])]
    unfold lineQuoted?
    split <;> simp_all
  have hParts : readParts? (rest.length + 1) (c :: rest) =
      none := by
    rw [readParts?, hDrop, hPart]
    rfl
  rw [readStatement?_cons p rest hOpens.1, readAssignment?,
    readKey?, List.length_cons, hParts]
  rfl

/- The blanks of a document are blanks. -/
theorem isBlank_of_tomlBlank
    {c : Char}
    (h : isBlank c = true) :
    Text.isBlank c = true := by
  simp only [isBlank, Bool.or_eq_true, beq_iff_eq] at h
  rcases h with rfl | rfl <;> rfl

/- Dropping the blanks of a document first changes nothing. -/
theorem trimStart_dropBlanks (text : List Char) :
    Text.trimStart (dropBlanks text) = Text.trimStart text := by
  induction text with
  | nil => rfl
  | cons c text ih =>
      unfold dropBlanks
      cases hBlank : isBlank c with
      | false =>
          rw [List.dropWhile_cons_of_neg (by simp [hBlank])]
      | true =>
          rw [List.dropWhile_cons_of_pos hBlank]
          unfold Text.trimStart
          rw [List.dropWhile_cons_of_pos
            (isBlank_of_tomlBlank hBlank)]
          exact ih

/- A quote behind blanks is the first character but for them. -/
theorem exists_cons_of_trimStart
    {text more : List Char}
    (h : Text.trimStart text = '"' :: more) :
    ∃ c rest, text = c :: rest ∧
      (c = '"' ∨ Text.isBlank c = true) := by
  cases text with
  | nil => cases h
  | cons c rest =>
      refine ⟨c, rest, rfl, ?_⟩
      cases hBlank : Text.isBlank c with
      | true => exact .inr rfl
      | false =>
          rw [Text.trimStart_cons hBlank] at h
          cases h
          exact .inl rfl

/- No control character is part of a key. -/
theorem isPlain_of_isKeyChar
    {c : Char}
    (h : isKeyChar c = true) :
    isPlain c = true := by
  have hRange : 32 ≤ c.toNat ∧ c.toNat < 127 := by
    unfold isKeyChar Char.isAlphanum Char.isAlpha
      Char.isUpper Char.isLower Char.isDigit at h
    simp only [UInt32.le_iff_toNat_le, ge_iff_le,
      Bool.or_eq_true, Bool.and_eq_true, decide_eq_true_eq,
      beq_iff_eq, Char.reduceVal, UInt32.reduceToNat,
      Char.toNat_val] at h
    rcases h with (((h | h) | h) | rfl) | rfl
    · omega
    · omega
    · omega
    · decide
    · decide
  have hLast : c.toNat ≠ 127 := by omega
  simp [isPlain, hRange.1, hLast]

/- Control characters start no statement. -/
theorem isStuck_of_not_isPlain
    {c : Char}
    (rest : List Char)
    (h : isPlain c = false) :
    IsStuck (c :: rest) := by
  have hKey : isKeyChar c = false := by
    by_contra hNot
    rw [isPlain_of_isKeyChar (by simpa using hNot)] at h
    cases h
  have hBlank : isBlank c = false := by
    by_contra hNot
    simp only [isBlank, Bool.not_eq_false, Bool.or_eq_true,
      beq_iff_eq] at hNot
    rcases hNot with rfl | rfl <;> cases h
  apply isStuck_cons rest hBlank hKey
  refine ⟨?_, ?_, ?_⟩ <;> (rintro rfl; cases h)

/- No value is assigned to the key `app` of a header. -/
theorem isStuck_header
    {after more : List Char}
    (hAfter : Text.trimStart after = '"' :: more) :
    IsStuck ('a' :: 'p' :: 'p' :: after) := by
  refine ⟨List.cons_ne_nil _ _, ?_⟩
  intro p
  have hPart : readPart? ('a' :: 'p' :: 'p' :: after) =
      some (['a', 'p', 'p'], after) := by
    obtain ⟨c, rest, rfl, hChar⟩ :=
      exists_cons_of_trimStart hAfter
    have hKey : isKeyChar c = false := by
      rcases hChar with rfl | hBlank
      · rfl
      · exact isKeyChar_of_isBlank hBlank
    have hApp : isKeyChar 'a' = true ∧ isKeyChar 'p' = true :=
      ⟨rfl, rfl⟩
    simp [readPart?, hApp, hKey]
  obtain ⟨c, rest, hNext, hChar⟩ :=
    exists_cons_of_trimStart
      ((trimStart_dropBlanks after).trans hAfter)
  have hOther : c ≠ '.' ∧ c ≠ '=' := by
    rcases hChar with rfl | hBlank
    · decide
    · constructor <;> (rintro rfl; cases hBlank)
  have hParts (limit : Nat) :
      readParts? (limit + 1) ('a' :: 'p' :: 'p' :: after) =
        some (["app"], c :: rest) := by
    have hDrop : dropBlanks ('a' :: 'p' :: 'p' :: after) =
        'a' :: 'p' :: 'p' :: after := rfl
    rw [readParts?, hDrop, hPart]
    simp [hNext, hOther.1]
  have hKey : readKey? ('a' :: 'p' :: 'p' :: after) =
      some (⟨[], "app"⟩, c :: rest) := by
    rw [readKey?, List.length_cons, hParts]
    rfl
  have hEquals : afterEquals? (c :: rest) = none := by
    unfold afterEquals?
    split
    · rename_i hText
      cases hText
      exact absurd rfl hOther.2
    · rfl
  rw [readStatement?_cons p _ (by decide), readAssignment?,
    hKey]
  simp [hEquals]

/-
  Space of a document ends where the first significant
  character stands, or the document is stuck before.
-/
theorem isStuck_or_eq_significantFrom
    (inComment : Bool)
    (text : List Char) :
    IsStuck (dropSpaceFrom inComment text) ∨
      dropSpaceFrom inComment text =
        significantFrom inComment text := by
  fun_induction dropSpaceFrom inComment text with
  | case1 => exact .inr rfl
  | case2 _ rest ih => exact ih
  | case3 inComment rest ih =>
      have hBreaks :
          significantFrom inComment ('\r' :: '\n' :: rest) =
            significantFrom false rest := by
        cases inComment <;> rfl
      rw [hBreaks]
      exact ih
  | case4 inComment c rest hBreak _ hPlain ih =>
      rw [Bool.and_eq_true] at hPlain
      rw [hPlain.1, significantFrom_inComment rest hBreak]
      exact ih
  | case5 inComment c rest _ _ _ hBlank ih =>
      rw [Bool.and_eq_true, Bool.not_eq_true'] at hBlank
      rw [hBlank.1, significantFrom_of_isBlank rest
        (isBlank_of_tomlBlank hBlank.2)]
      exact ih
  | case6 inComment c rest _ _ _ _ hMark ih =>
      rw [Bool.and_eq_true, Bool.not_eq_true',
        beq_iff_eq] at hMark
      obtain ⟨rfl, rfl⟩ := hMark
      exact ih
  | case7 inComment c rest _ _ hPlain hBlank hMark =>
      cases inComment with
      | true =>
          have hControl : isPlain c = false := by
            simpa using hPlain
          exact .inl (isStuck_of_not_isPlain rest hControl)
      | false =>
          have hOther : c ≠ '#' := by simpa using hMark
          have hStays : isBlank c = false := by
            simpa using hBlank
          -- A specification has more blanks than a document:
          -- at the others the document is stuck.
          cases hText : Text.isBlank c with
          | true =>
              left
              apply isStuck_cons rest hStays
                (isKeyChar_of_isBlank hText)
              refine ⟨?_, ?_, ?_⟩ <;> (rintro rfl; cases hText)
          | false =>
              right
              rw [significantFrom_cons rest hOther hText]

/- A specification is no document. -/
theorem readDocument?_eq_none_of_parse
    {file source : String}
    {spec : Spec}
    (h : Spec.parse file source = .ok spec) :
    readDocument? source = none := by
  obtain ⟨header, name, lines, hLines, hName, _⟩ :=
    Spec.exists_of_parse_eq_ok h
  obtain ⟨after, more, hText, hAfter⟩ :=
    exists_of_headerName? hName
  have hFirst :
      (rows source.toList).findSome? textOfRow? =
        some header.text := by
    rw [← text_head?_linesFrom 1]
    change (significantLines source).head?.map Line.text = _
    rw [hLines]
    rfl
  obtain ⟨tail, hStart⟩ := @prefix_significantFrom false _ _ hFirst
  rw [hText] at hStart
  have hQuote :
      Text.trimStart (after ++ tail) = '"' :: (more ++ tail) := by
    have hMem : '"' ∈ Text.trimStart after := by
      rw [hAfter]
      exact List.mem_cons_self
    rw [Text.trimStart_append_of_not_blank tail
      ⟨'"', (List.dropWhile_suffix _).subset hMem, rfl⟩, hAfter]
    rfl
  have hMark :
      dropByteOrderMark source.toList = source.toList := by
    unfold dropByteOrderMark
    split
    · rename_i hSource
      rw [hSource] at hStart
      cases hStart
    · rfl
  have hStuck : IsStuck (dropSpace source.toList) := by
    rcases isStuck_or_eq_significantFrom false source.toList
      with hStuck | hSame
    · exact hStuck
    · rw [dropSpace, hSame, ← hStart]
      exact isStuck_header hQuote
  rw [readDocument?, hMark, readStatements?_eq_none hStuck]
  rfl

end Toml

end Blueprint
