import Blueprint.Proofs.Reading.Relaid
import Blueprint.Proofs.Source.Rows

/-
  What a document says does not depend on how it is laid
  out: blank and comment rows only move what follows them,
  and neither line ends nor blanks at the end of rows change
  anything.

  Main definition:
    * `LayoutInsensitive`

  Main statement:
    * `layoutInsensitive_parse`
-/

------------------------------------------------------------
-- Documents Laid Out Anew
------------------------------------------------------------

namespace Blueprint

open Text

/-
  A document is read alike in other layouts. A row without a
  line, put in anywhere, moves every place from there on by
  one line. The one fault of a document without any line
  stays at line one. CRLF line ends, and blanks at the end
  of any rows, change nothing.
-/
structure LayoutInsensitive
    (file source : String) : Prop where
  inserted :
    significantLines source ≠ [] →
      ∀ position row, '\n' ∉ row → IsSkipped row →
        Spec.parse file (insertRow position row source) =
          movedOutcome (numberAfterInsertion position)
            (Spec.moved (numberAfterInsertion position))
            (Spec.parse file source)
  lineless :
    significantLines source = [] →
      ∃ fault : Fault,
        fault.location = ⟨file, 1⟩ ∧
          Spec.parse file source = .error [fault] ∧
          ∀ position row, '\n' ∉ row → IsSkipped row →
            Spec.parse file (insertRow position row source) =
              .error [fault]
  crlf :
    Spec.parse file (crlf source) = Spec.parse file source
  padded :
    ∀ pad : Nat → List Char,
      (∀ position, ∀ c ∈ pad position,
        isBlank c = true ∧ c ≠ '\n') →
        Spec.parse file (padRows pad source) =
          Spec.parse file source

/-
  Every document is read alike in other layouts. Places move
  by one without a bound: where lines are counted in 32 bits
  this needs fewer than 2^32 rows
  (`toNat_ofNat_significantLines_number`).
-/
theorem layoutInsensitive_parse
    (file source : String) :
    LayoutInsensitive file source where
  inserted := by
    intro hSome position row hFeed hRow
    have hLines :=
      significantLines_insertRow position source hFeed hRow
    unfold Spec.parse
    rw [hLines]
    apply Spec.ofLines_relaid
    intro hNone
    exact absurd hNone hSome
  lineless := by
    intro hNone
    refine ⟨⟨⟨file, 1⟩, .emptyDocument⟩, rfl, ?_, ?_⟩
    · rw [Spec.parse, hNone]
      rfl
    · intro position row hFeed hRow
      have hLines :=
        significantLines_insertRow position source hFeed hRow
      rw [hNone] at hLines
      rw [Spec.parse, hLines]
      rfl
  crlf := by
    unfold Spec.parse
    rw [significantLines_crlf]
  padded := by
    intro pad hPad
    unfold Spec.parse
    rw [significantLines_padRows source hPad]

/- A comment inside a body does not end its block. -/
example :
    significantLines
        (insertRow 2 "# items".toList
          "app \"Shop\"\nentity Item\n  name: text") =
      [⟨"app \"Shop\"".toList, 0, 1⟩,
        ⟨"entity Item".toList, 0, 2⟩,
        ⟨"name: text".toList, 1, 4⟩] := by
  decide

end Blueprint
