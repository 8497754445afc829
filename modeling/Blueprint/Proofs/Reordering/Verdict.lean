import Blueprint.Proofs.Reordering.Checks

/-
  The verdict does not depend on the order of declarations:
  a reordered specification has as many issues with every
  code, as long as its entities have different names.

  Main statements:
    * `Spec.Reordered.issues_sameKinds`
    * `Spec.Reordered.summary_eq`
    * `verify_reordered`
-/

------------------------------------------------------------
-- Reordered Specifications
------------------------------------------------------------

namespace Blueprint

variable {spec other : Spec}

/- All checks together report the same kinds of issues. -/
theorem Spec.Reordered.issues_sameKinds
    (h : spec.Reordered other)
    (hNames : (spec.entities.map Entity.name).Nodup) :
    SameKinds other.issues spec.issues := by
  unfold Spec.issues
  refine .append (.append (.append (.append (.append (.append
    ?duplicates ?complete) ?typing) ?conflicts)
      ?boundaries) ?wiring) ?style
  case duplicates => exact h.duplicateIssues_sameKinds
  case complete => exact h.structureIssues_sameKinds hNames
  case typing => exact h.typingIssues_sameKinds hNames
  case conflicts => exact h.conflictIssues_sameKinds hNames
  case boundaries => exact h.boundaryIssues_sameKinds
  case wiring => exact h.wiringIssues_sameKinds hNames
  case style => exact h.styleIssues_sameKinds

/- As much is looked at. -/
theorem Spec.Reordered.summary_eq
    (h : spec.Reordered other)
    (hNames : (spec.entities.map Entity.name).Nodup) :
    other.summary = spec.summary := by
  unfold Spec.summary
  rw [h.wiringCounts_eq hNames, h.entities.length_eq,
    h.screens.length_eq, h.flows.length_eq,
    h.rules.length_eq, h.integrations.length_eq,
    h.events.length_eq]

/-
  With entities of different names, declarations of every
  kind may be put in another order: the success, the counts
  of errors and warnings, the summary and the number of
  issues with any code stay the same.
-/
theorem verify_reordered
    (h : spec.Reordered other)
    (hNames : (spec.entities.map Entity.name).Nodup) :
    other.verify.success = spec.verify.success ∧
      other.verify.errorCount = spec.verify.errorCount ∧
      other.verify.warningCount =
        spec.verify.warningCount ∧
      other.verify.summary = spec.verify.summary ∧
      ∀ code,
        other.verify.countCode code =
          spec.verify.countCode code := by
  have hKinds := h.issues_sameKinds hNames
  have hErrors := hKinds.countSeverity_eq .error
  have hWarnings := hKinds.countSeverity_eq .warning
  refine ⟨?_, hErrors, hWarnings, h.summary_eq hNames,
    hKinds.countCode_eq⟩
  unfold Spec.verify Report.ofIssues
  rw [hErrors]

/- Two entities that refer to each other. -/
def authorEntity : Entity :=
  ⟨"Author",
    [⟨"books", .list "Book", ⟨false, false, none, none, none,
      none⟩, ⟨"library", 3⟩⟩],
    ⟨"library", 2⟩⟩

def bookEntity : Entity :=
  ⟨"Book",
    [⟨"author", .relationship "Author", ⟨true, false, none,
      none, none, none⟩, ⟨"library", 5⟩⟩],
    ⟨"library", 4⟩⟩

/- Two screens of one name. -/
def listScreen : Screen :=
  ⟨"Books", .list, some "Book", ["author"], [], [], none, [],
    [], ⟨"library", 6⟩⟩

def formScreen : Screen :=
  ⟨"Books", .form, some "Author", ["books"], [], [], none,
    [], [], ⟨"library", 9⟩⟩

/- A specification of them. -/
def librarySpec : Spec :=
  ⟨"Library", [authorEntity, bookEntity],
    [listScreen, formScreen], [], [], [], []⟩

/- The same declarations, those of each kind swapped. -/
def swappedSpec : Spec :=
  ⟨"Library", [bookEntity, authorEntity],
    [formScreen, listScreen], [], [], [], []⟩

/- The other one of the screens is the repeated one. -/
theorem verify_reordered_librarySpec :
    swappedSpec.verify.success =
        librarySpec.verify.success ∧
      swappedSpec.verify.errorCount =
        librarySpec.verify.errorCount ∧
      swappedSpec.verify.warningCount =
        librarySpec.verify.warningCount ∧
      swappedSpec.verify.summary =
        librarySpec.verify.summary ∧
      ∀ code,
        swappedSpec.verify.countCode code =
          librarySpec.verify.countCode code := by
  have hReordered : librarySpec.Reordered swappedSpec :=
    { appName := rfl
      entities := List.Perm.swap ..
      screens := List.Perm.swap ..
      flows := List.Perm.nil
      rules := List.Perm.nil
      integrations := List.Perm.nil
      events := List.Perm.nil }
  have hNames :
      (librarySpec.entities.map Entity.name).Nodup := by
    decide
  exact verify_reordered hReordered hNames

end Blueprint
