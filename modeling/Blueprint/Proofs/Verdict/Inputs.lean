import Blueprint.Proofs.Issue.Selection
import Blueprint.Proofs.Text.Identifier
import Blueprint.Proofs.Verdict.Warnings
import Blueprint.Verify

/-
  The inputs of questions to an AI. Every rule is reported
  on by itself, and nothing is reported about an input that
  refers to a declared entity and to a field of its first
  declaration. The name of the entity is taken with a
  capital letter, and the name of the field without blanks
  around it.

  Main definitions:
    * `inputIssues`, `inputIssuesOf`

  Main statements:
    * `inputIssues_eq_filterMap`
    * `inputIssuesOf_of_declared`
    * `inputIssuesOf_otherwiseSpelled`
-/

------------------------------------------------------------
-- Issues with Inputs
------------------------------------------------------------

namespace Blueprint

/- What verification reports about inputs. -/
def inputIssues (spec : Spec) : List Issue :=
  withCodes Code.inputs spec.verify.issues

/- What it reports about the input of a rule by itself. -/
def inputIssuesOf
    (spec : Spec)
    (r : Rule) : List Issue :=
  inputIssues { spec with rules := [r] }

/- The issues with inputs are found rule by rule. -/
theorem inputIssues_eq_filterMap (spec : Spec) :
    inputIssues spec =
      spec.rules.filterMap
        (inputIssue? (TypeEnv.ofSpec spec)) := by
  have hCheck : (Code.typing,
      typingIssues spec (TypeEnv.ofSpec spec)) ∈
        spec.checks := by
    simp [Spec.checks]
  have hSelected : inputIssues spec = _ :=
    withCodes_issues hCheck (by decide)
  have hForms : Reports [.typeListOnForm, .typeAiFieldOnForm]
      (spec.screens.flatMap
        (formIssues (TypeEnv.ofSpec spec))) := by
    rw [reports_flatMap_iff]
    exact fun s _ => reports_formIssues _ s
  have hRules :=
    reports_inputIssues (TypeEnv.ofSpec spec) spec.rules
  rw [hSelected]
  unfold typingIssues
  rw [withCodes_append, hForms.withCodes_eq_nil (by decide),
    hRules.withCodes_eq_self (List.Subset.refl _),
    List.nil_append]

/- A rule by itself has the issue of its input. -/
theorem inputIssuesOf_eq
    (spec : Spec)
    (r : Rule) :
    inputIssuesOf spec r =
      (inputIssue? (TypeEnv.ofSpec spec) r).toList := by
  have hOne := inputIssues_eq_filterMap
    { spec with rules := [r] }
  unfold inputIssuesOf
  rw [hOne, List.filterMap_eq_flatMap_toList,
    List.flatMap_singleton]
  rfl

/- Every rule answers for its own input. -/
theorem inputIssues_eq_flatMap (spec : Spec) :
    inputIssues spec =
      spec.rules.flatMap (inputIssuesOf spec) := by
  rw [inputIssues_eq_filterMap,
    List.filterMap_eq_flatMap_toList,
    funext (inputIssuesOf_eq spec)]

end Blueprint

------------------------------------------------------------
-- Inputs of Declared Entities
------------------------------------------------------------

namespace Blueprint

open Text

/-
  Nothing is found about a reference to a declared entity,
  with a field that its first declaration has. A finding
  would be an error or a warning.
-/
theorem referenceFinding?_eq_none
    {spec : Spec}
    {reference : Reference}
    {n : String}
    {e : Entity}
    (rule input : String)
    (hEntity : reference.entity = some n)
    (hFirst : FirstNamed Entity.name spec.entities n e)
    (hField : ∀ field, reference.field = some field →
      ∃ d ∈ e.fields, d.name = field) :
    referenceFinding? (TypeEnv.ofSpec spec) rule input
      reference = none := by
  have hDeclares : spec.Declares n := by
    rcases hFirst with ⟨hName, before, after, hEntities, _⟩
    refine ⟨e, ?_, hName⟩
    rw [hEntities]
    exact List.mem_append_right _ List.mem_cons_self
  have hKnown : ∀ other,
      FirstNamed Entity.name spec.entities n other →
        ∀ field, reference.field = some field →
          ∃ d ∈ other.fields, d.name = field := by
    intro other hOther
    rw [← Spec.entity?_eq_some_iff] at hFirst hOther
    rw [hFirst, Option.some.injEq] at hOther
    rw [← hOther]
    exact hField
  rw [Option.eq_none_iff_forall_ne_some]
  intro finding hFinding
  have hTells := tellsOf_of_referenceFinding? hFinding
  rcases List.mem_pair.mp hTells.1 with hCode | hCode
  · apply (referenceFinding?_error_iff spec rule input
      hEntity).mpr hDeclares finding hFinding
    rw [hTells.2, hCode]
    rfl
  · apply (referenceFinding?_warning_iff spec rule input
      hEntity).mpr hKnown finding hFinding
    rw [hTells.2, hCode]
    rfl

/-
  An input `n.f` is not reported when the entity `n`, with a
  capital letter, is declared and its first declaration has
  the field `f`. Blanks around the field do not count, and
  nothing but blanks is no field at all.
-/
theorem inputIssuesOf_of_declared
    {spec : Spec}
    {r : Rule}
    {call : AiCall}
    {n f : String}
    {e : Entity}
    (hAsks : r.condition = some (.ai call))
    (hInput : call.input = n ++ "." ++ f)
    (hName : isIdentifier n.toList = true)
    (hFirst : FirstNamed Entity.name spec.entities
      (capitalized n.toList) e)
    (hField : trim f.toList ≠ [] →
      ∃ d ∈ e.fields,
        d.name = String.ofList (trim f.toList)) :
    inputIssues spec =
        spec.rules.flatMap (inputIssuesOf spec) ∧
      inputIssuesOf spec r = [] := by
  refine ⟨inputIssues_eq_flatMap spec, ?_⟩
  have hText : call.input.toList =
      n.toList ++ '.' :: f.toList := by
    rw [hInput]
    simp
  have hDot : '.' ∉ n.toList :=
    not_mem_of_isIdentifier hName (by decide)
  have hTrim : trim n.toList = n.toList :=
    (isSolid_of_isIdentifier hName).trim_eq
  have hReference := ofText_of_dotted
    (TypeEnv.ofSpec spec).entityNames hText hDot
  rw [hTrim] at hReference
  rw [inputIssuesOf_eq, Option.toList_eq_nil_iff,
    Option.eq_none_iff_forall_ne_some]
  intro i hIssue
  rcases inputIssue?_eq_some_iff.mp hIssue with
    ⟨other, finding, hOther, _, hFinding, _⟩
  rw [hAsks] at hOther
  cases hOther
  rw [hReference, referenceFinding?_eq_none r.description
    call.input rfl hFirst ?field] at hFinding
  · cases hFinding
  case field =>
      intro field hReferred
      rcases Option.ite_none_left_eq_some.mp hReferred with
        ⟨hSome, hSame⟩
      rw [← Option.some.inj hSame]
      exact hField (by simpa using hSome)

/- An entity with one field for a text. -/
def entityWith (name field : String) : Entity :=
  ⟨name, [⟨field, .scalar .text, {}, ⟨"desk", 3⟩⟩],
    ⟨"desk", 2⟩⟩

/- A rule that asks about an input. -/
def ruleOn (input : String) : Rule :=
  ⟨"Sort", some (.ai ⟨input, "Angry?", "boolean"⟩),
    some "flag", ⟨"desk", 5⟩⟩

/- A desk with an entity and a rule. -/
def deskSpec
    (e : Entity)
    (r : Rule) : Spec where
  appName := "Desk"
  entities := [e]
  screens := []
  flows := []
  rules := [r]
  integrations := []
  events := []

/- A ticket is asked about by its title. -/
theorem inputIssuesOf_of_declared_ticketTitle :
    let spec := deskSpec (entityWith "Ticket" "title")
      (ruleOn "ticket.title")
    inputIssues spec =
        spec.rules.flatMap (inputIssuesOf spec) ∧
      inputIssuesOf spec (ruleOn "ticket.title") = [] := by
  have hInput : "ticket.title" = "ticket" ++ "." ++ "title" :=
    by decide
  have hFirst : FirstNamed Entity.name
      (deskSpec (entityWith "Ticket" "title")
        (ruleOn "ticket.title")).entities
      (capitalized "ticket".toList)
      (entityWith "Ticket" "title") :=
    ⟨by decide +kernel, [], [], rfl, by simp⟩
  exact inputIssuesOf_of_declared rfl hInput (by decide)
    hFirst fun _ => ⟨_, List.mem_cons_self, by decide⟩

/-
  A declared entity is reported as undeclared if its name
  starts with a small letter, and a field as missing if
  there are blanks around its name.
-/
theorem inputIssuesOf_otherwiseSpelled :
    let ticket := entityWith "ticket" "title"
    let padded := entityWith "Ticket" " title"
    isIdentifier "ticket".toList = true ∧
      isIdentifier "Ticket".toList = true ∧
      FirstNamed Entity.name
        (deskSpec ticket (ruleOn "ticket.title")).entities
        "ticket" ticket ∧
      "title" ∈ ticket.fields.map Field.name ∧
      inputIssuesOf
          (deskSpec ticket (ruleOn "ticket.title"))
          (ruleOn "ticket.title") =
        [.of
          (.error (.typeUnknownRuleEntity "Sort" "ticket.title"
            "Ticket"))
          ⟨"desk", 5⟩] ∧
      FirstNamed Entity.name
        (deskSpec padded (ruleOn "Ticket. title")).entities
        "Ticket" padded ∧
      " title" ∈ padded.fields.map Field.name ∧
      inputIssuesOf
          (deskSpec padded (ruleOn "Ticket. title"))
          (ruleOn "Ticket. title") =
        [.of
          (.warning (.typeUnknownRuleField "Sort" "Ticket. title"
            "Ticket" "title" [" title"]))
          ⟨"desk", 5⟩] := by
  dsimp only
  simp only [inputIssuesOf_eq]
  exact ⟨by decide, by decide,
    ⟨rfl, [], [], rfl, by simp⟩, by decide,
    by decide +kernel, ⟨rfl, [], [], rfl, by simp⟩,
    by decide, by decide +kernel⟩

end Blueprint
