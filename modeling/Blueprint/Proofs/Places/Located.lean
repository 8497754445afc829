import Blueprint.Proofs.Places.Checks
import Blueprint.Proofs.Places.Lines
import Blueprint.Proofs.Verdict.Errors

/-
  What editors and lists of ignored codes rely on: an issue
  of a document points to a line of the document that
  declares something, and the code of an issue alone decides
  how severe it is.

  Main definition:
    * `Code.isNote`

  Main statements:
    * `severity_eq_of_code_eq`
    * `severity_of_isNote`
    * `issues_located_graded`
-/

------------------------------------------------------------
-- Severities of Codes
------------------------------------------------------------

namespace Blueprint

/- Issues of one code are equally severe. -/
theorem severity_eq_of_code_eq
    {spec other : Spec}
    {i j : Issue}
    (hI : i ∈ spec.issues)
    (hJ : j ∈ other.issues)
    (hCode : i.code = j.code) :
    i.severity = j.severity := by
  obtain ⟨c, _, hId, hSeverity⟩ := reports_issues spec i hI
  obtain ⟨d, _, hOther, hGrade⟩ := reports_issues other j hJ
  have hSame : c = d := by
    apply Code.id_injective
    rw [← hId, ← hOther, hCode]
  rw [hSeverity, hGrade, hSame]

/- The scopes of the codes that are only notes. -/
def noteScopes : List String :=
  ["boundary.", "lint."]

/- The code with an id is in one of the scopes of notes. -/
def isNote (id : String) : Bool :=
  noteScopes.any fun scope =>
    scope.toList.isPrefixOf id.toList

/- Codes in the scopes of notes are for information. -/
theorem severity_of_isNote :
    ∀ c ∈ Code.all, isNote c.id = true → c.severity = .info := by
  decide +kernel

end Blueprint

------------------------------------------------------------
-- Issues of Documents
------------------------------------------------------------

namespace Blueprint

/-
  For every document that is read, each issue of its check
  points to a line of the document below the header, and
  that line declares a declaration, a field, a step or a
  widget of what was read. Over all documents, issues of one
  code are equally severe, so that a list of ignored codes
  hides either all issues of a code or none. Conflicts,
  boundaries, wiring and style are never errors, and what is
  told about boundaries and style is for information.
-/
theorem issues_located_graded :
    (∀ (file source : String) (spec : Spec),
      Spec.parse file source = .ok spec →
        ∃ report, check file source = .ok report ∧
          ∀ i ∈ report.issues,
            ∃ line ∈ (significantLines source).tail,
              i.location = some ⟨file, line.number⟩ ∧
                ∃ b d, spec.DeclaresAt file
                  (significantLines source).tail line b d) ∧
      (∀ (spec other : Spec) (i j : Issue),
        i ∈ spec.verify.issues →
          j ∈ other.verify.issues →
            i.code = j.code →
              i.severity = j.severity ∧
                ∀ codes, Report.isShown codes i =
                  Report.isShown codes j) ∧
      (∀ spec : Spec,
        ErrorFree
          (conflictIssues spec (TypeEnv.ofSpec spec) ++
            boundaryIssues spec ++ wiringIssues spec ++
            styleIssues spec)) ∧
      (∀ (spec : Spec) (i : Issue),
        i ∈ spec.verify.issues →
          isNote i.code = true → i.severity = .info) := by
  refine ⟨?located, ?graded, ?harmless, ?notes⟩
  case located =>
      intro file source spec hParse
      have hCheck : check file source = .ok spec.verify := by
        unfold check
        rw [hParse]
        rfl
      refine ⟨spec.verify, hCheck, ?_⟩
      intro i hIssue
      obtain ⟨l, hPlace, hLocation⟩ := placed_issues spec i hIssue
      obtain ⟨line, hLine, rfl, hDeclares⟩ :=
        Spec.exists_line_of_mem_places hParse hPlace
      exact ⟨line, hLine, hLocation, hDeclares⟩
  case graded =>
      intro spec other i j hI hJ hCode
      have hSame := severity_eq_of_code_eq hI hJ hCode
      refine ⟨hSame, ?_⟩
      intro codes
      unfold Report.isShown
      rw [hSame, hCode]
  case harmless =>
      intro spec
      simp only [errorFree_append_iff]
      exact ⟨⟨⟨errorFree_conflictIssues spec _,
        errorFree_boundaryIssues spec⟩,
        errorFree_wiringIssues spec⟩,
        errorFree_styleIssues spec⟩
  case notes =>
      intro spec i hIssue hNote
      obtain ⟨c, hCode, hId, hSeverity⟩ :=
        reports_issues spec i hIssue
      rw [hId] at hNote
      rw [hSeverity]
      exact severity_of_isNote c hCode hNote

/- A document with amounts of money. -/
def invoiceSource : String :=
  "app \"Desk\"\n\nentity invoice\n  total: money\n  tax: money\n"

/- What it specifies. -/
def invoiceSpec : Spec :=
  ⟨"Desk",
    [⟨"invoice",
      [⟨"total", .scalar .money, {}, ⟨"desk", 4⟩⟩,
        ⟨"tax", .scalar .money, {}, ⟨"desk", 5⟩⟩],
      ⟨"desk", 3⟩⟩],
    [], [], [], [], []⟩

/- The notes on its two amounts. -/
def totalNote : Issue :=
  .of (.info (.boundaryMoney "invoice" "total")) ⟨"desk", 4⟩

def taxNote : Issue :=
  .of (.info (.boundaryMoney "invoice" "tax")) ⟨"desk", 5⟩

/- Both notes point to the lines of their fields. -/
theorem issues_located_graded_invoiceSpec :
    Spec.parse "desk" invoiceSource = .ok invoiceSpec ∧
      totalNote ∈ invoiceSpec.verify.issues ∧
      taxNote ∈ invoiceSpec.verify.issues ∧
      (∃ report, check "desk" invoiceSource = .ok report ∧
        ∀ i ∈ report.issues,
          ∃ line ∈ (significantLines invoiceSource).tail,
            i.location = some ⟨"desk", line.number⟩ ∧
              ∃ b d, invoiceSpec.DeclaresAt "desk"
                (significantLines invoiceSource).tail
                line b d) ∧
      totalNote.severity = taxNote.severity ∧
      totalNote.severity = .info := by
  have hParse :
      Spec.parse "desk" invoiceSource = .ok invoiceSpec := by
    rfl
  have hTotal : totalNote ∈ invoiceSpec.verify.issues := by
    decide +kernel
  have hTax : taxNote ∈ invoiceSpec.verify.issues := by
    decide +kernel
  obtain ⟨hLocated, hGraded, _, hNotes⟩ := issues_located_graded
  exact ⟨hParse, hTotal, hTax,
    hLocated "desk" invoiceSource invoiceSpec hParse,
    (hGraded invoiceSpec invoiceSpec totalNote taxNote hTotal
      hTax (by decide)).1,
    hNotes invoiceSpec totalNote hTotal (by decide)⟩

end Blueprint
