import Blueprint.Proofs.Places.Apart
import Blueprint.Proofs.Written.Document

/-
  Rules in documents: what a block with one line declares,
  and what is found about the question to an AI that it
  asks.

  Main definitions:
    * `Block.IsRule`
    * `issuesAt`
    * `Rule.incompleteIssues`
    * `ruleDocument`

  Main statements:
    * `Block.IsRule.ofBlock_eq`
    * `Block.IsRule.mem_rules`
    * `parse_ruleDocument`
    * `issuesAt_ruleAiIncomplete`
    * `issuesAt_location`
-/

------------------------------------------------------------
-- Issues of a Code at a Place
------------------------------------------------------------

namespace Blueprint

/- The issues of a code at a place. -/
def issuesAt
    (code : Code)
    (location : Location)
    (issues : List Issue) : List Issue :=
  issues.filter fun i =>
    i.code == code.id && i.location == some location

variable {code : Code}
variable {codes : List Code}
variable {location : Location}
variable {issues : List Issue}

theorem issuesAt_append
    (first second : List Issue) :
    issuesAt code location (first ++ second) =
      issuesAt code location first ++
        issuesAt code location second :=
  List.filter_append ..

theorem issuesAt_flatMap
    {α : Type}
    (xs : List α)
    (f : α → List Issue) :
    issuesAt code location (xs.flatMap f) =
      xs.flatMap fun x => issuesAt code location (f x) :=
  List.filter_flatMap ..

/- A check has no issues of the codes of other checks. -/
theorem Reports.issuesAt_eq_nil
    (h : Reports codes issues)
    (hOther : code ∉ codes) :
    issuesAt code location issues = [] := by
  apply h.filter_eq_nil _ hOther
  intro i hIssue
  rw [Bool.and_eq_true, beq_iff_eq] at hIssue
  exact hIssue.1

/- Nor have the checks of all items of a list. -/
theorem issuesAt_flatMap_eq_nil
    {α : Type}
    (xs : List α)
    {f : α → List Issue}
    (h : ∀ x, Reports codes (f x))
    (hOther : code ∉ codes) :
    issuesAt code location (xs.flatMap f) = [] :=
  (reports_flatMap_iff.mpr fun x _ => h x).issuesAt_eq_nil
    hOther

/- Findings are told where they are. -/
theorem issuesAt_map_of
    (findings : List Finding)
    (place : Location) :
    issuesAt code location (findings.map (.of · place)) =
      if place = location then
        (findings.filter (·.code == code)).map (.of · place)
      else
        [] := by
  unfold issuesAt
  rw [List.filter_map]
  by_cases hPlace : place = location
  · rw [if_pos hPlace]
    congr 2
    funext finding
    simp [Issue.of, hPlace, Code.id_injective.eq_iff]
  · rw [if_neg hPlace, List.map_eq_nil_iff,
      List.filter_eq_nil_iff]
    intro finding _
    simp [Issue.of, hPlace]

end Blueprint

------------------------------------------------------------
-- Incomplete Questions
------------------------------------------------------------

namespace Blueprint

namespace Rule

/- The issue of a question that lacks a part, if it does. -/
def incompleteIssues (r : Rule) : List Issue :=
  match r.aiCall? with
  | none => []
  | some call =>
      let missing := missingParts call
      if missing.isEmpty then
        []
      else
        [.of (.error (.ruleAiIncomplete r.label missing))
          r.location]

/- A rule tells of its incomplete question where it stands. -/
theorem issuesAt_ruleIssues
    (hasAi : Bool)
    (r : Rule)
    (location : Location) :
    issuesAt .ruleAiIncomplete location
        (ruleIssues hasAi r) =
      if r.location = location then
        r.incompleteIssues
      else
        [] := by
  rw [ruleIssues, issuesAt_map_of]
  congr 1
  unfold incompleteIssues ruleFindings
  have hDescription : (if isBlankString r.description then
      [Finding.error (.ruleMissingDescription r.label)] else
        []).filter (·.code == .ruleAiIncomplete) = [] := by
    split <;> rfl
  have hEmpty : (if r.condition.isNone && r.action.isNone then
      [Finding.error (.ruleEmpty r.label)] else
        []).filter (·.code == .ruleAiIncomplete) = [] := by
    split <;> rfl
  rw [List.filter_append, List.filter_append, hDescription,
    hEmpty]
  cases r.aiCall? with
  | none => rfl
  | some call =>
      have hAnswer : (if hasAi then [] else
          [Finding.warning
            (.ruleAiWithoutIntegration r.label)]).filter
              (·.code == .ruleAiIncomplete) = [] := by
        split <;> rfl
      unfold aiFindings
      dsimp only
      rw [List.filter_append, hAnswer, List.append_nil]
      split <;> rfl

end Rule

/-
  Among the issues of a specification, incomplete questions
  are told by the rules that stand at the place.
-/
theorem issuesAt_ruleAiIncomplete
    (spec : Spec)
    (location : Location) :
    issuesAt .ruleAiIncomplete location spec.issues =
      spec.rules.flatMap fun r =>
        if r.location = location then
          r.incompleteIssues
        else
          [] := by
  have hFlows : ∀ f, Reports (Code.flows false)
      (flowIssues spec.hasAi f) := by
    intro f
    apply (reports_flowIssues spec.hasAi f).mono
    cases spec.hasAi <;> decide
  unfold Spec.issues structureIssues
  simp only [issuesAt_append]
  rw [(reports_duplicateIssues spec).issuesAt_eq_nil
      (by decide),
    issuesAt_flatMap_eq_nil spec.entities
      (reports_entityIssues _) (by decide),
    issuesAt_flatMap_eq_nil spec.screens
      (reports_screenIssues _) (by decide),
    issuesAt_flatMap_eq_nil spec.flows hFlows (by decide),
    (reports_integrationIssues _).issuesAt_eq_nil (by decide),
    (reports_eventIssues _).issuesAt_eq_nil (by decide),
    (reports_typingIssues spec _).issuesAt_eq_nil (by decide),
    (reports_conflictIssues spec _).issuesAt_eq_nil
      (by decide),
    (reports_boundaryIssues spec).issuesAt_eq_nil (by decide),
    (reports_wiringIssues spec).issuesAt_eq_nil (by decide),
    (reports_styleIssues spec).issuesAt_eq_nil (by decide),
    issuesAt_flatMap]
  simp only [Rule.issuesAt_ruleIssues, List.nil_append,
    List.append_nil]

end Blueprint

------------------------------------------------------------
-- Rules of One Line
------------------------------------------------------------

namespace Blueprint

open Text

namespace Block

/- A block opens a rule and has one line below its head. -/
structure IsRule
    (b : Block)
    (text : List Char) : Prop where
  opens : b.head.opens .rule = true
  body : b.body.map Line.text = [text]

/- The rule that the head of a block describes. -/
def rule
    (b : Block)
    (file : String)
    (condition : Option Condition)
    (action : Option String) : Rule where
  description := String.ofList
    (trim (unquoted (splitKeyword b.head.text).2))
  condition := condition
  action := action
  location := b.head.location file

variable {file : String}
variable {b : Block}
variable {text : List Char}
variable {condition : Option Condition}
variable {action : Option String}

/- The block declares what its line is read as. -/
theorem IsRule.ofBlock_eq
    (file : String)
    (hRule : b.IsRule text)
    (hParts : Rule.partsOfText text =
      .ok (condition, action)) :
    Declaration.ofBlock file b =
      .ok (.rule (b.rule file condition action)) := by
  have hBody : Rule.partsOfBody file b.body =
      .ok (condition, action) := by
    cases hLines : b.body with
    | nil =>
        have hNone := hRule.body
        rw [hLines] at hNone
        cases hNone
    | cons line more =>
        have hOne := hRule.body
        rw [hLines, List.map_cons, List.cons.injEq,
          List.map_eq_nil_iff] at hOne
        obtain ⟨hText, rfl⟩ := hOne
        rw [Rule.partsOfBody, hText, hParts]
        rfl
  have hRead : Rule.ofBlock file (splitKeyword b.head.text).2
      b = .ok (b.rule file condition action) := by
    rw [Rule.ofBlock, hBody]
    rfl
  rw [Declaration.ofBlock_of_opens hRule.opens,
    Declaration.ofKeyword, hRead]
  rfl

variable {source : String}
variable {spec : Spec}

/- The rule is declared by the document of the block. -/
theorem IsRule.mem_rules
    (hRule : b.IsRule text)
    (hParts : Rule.partsOfText text =
      .ok (condition, action))
    (hSpec : Spec.parse file source = .ok spec)
    (hBlock : b ∈ documentBlocks source) :
    b.rule file condition action ∈ spec.rules := by
  have hRead := hRule.ofBlock_eq file hParts
  have hMem := Spec.mem_ofKind_of_ofBlock hSpec hBlock hRead
  rcases List.mem_map.mp hMem with ⟨r, hRules, hSame⟩
  cases hSame
  exact hRules

end Block

end Blueprint

------------------------------------------------------------
-- Documents of One Rule
------------------------------------------------------------

namespace Blueprint

open Text

/- The head of a rule with a description in quotes. -/
def ruleHead (description : List Char) : List Char :=
  "rule ".toList ++ inQuotes description

/- A document of a rule of one line. -/
def ruleDocument
    (appName description text : List Char) : String :=
  documentText appName
    [ruleHead description, indented 1 text]

/- The block of the rule. -/
def ruleBlock (description text : List Char) : Block where
  head := ⟨ruleHead description, 0, 2⟩
  body := [⟨text, 1, 3⟩]

variable {appName description text : List Char}
variable {condition : Option Condition}
variable {action : Option String}

/- The block opens a rule. -/
theorem isRule_ruleBlock (description text : List Char) :
    (ruleBlock description text).IsRule text :=
  ⟨rfl, rfl⟩

/- The description is read back without its quotes. -/
theorem rule_ruleBlock (file : String) :
    (ruleBlock description text).rule file condition action =
      ⟨String.ofList (trim description), condition, action,
        ⟨file, 2⟩⟩ := by
  have hHead : (splitKeyword (ruleHead description)).2 =
      trim (inQuotes description) :=
    rfl
  have hQuoted := (isSolid_inQuotes description).trim_eq
  dsimp only [Block.rule, ruleBlock]
  rw [hHead, hQuoted, unquoted_inQuotes]
  rfl

/- The rows of the rule are one block. -/
theorem isCut_ruleBlock
    (description : List Char)
    (hSolid : IsSolid text)
    (hMark : text.head? ≠ some '#') :
    IsCut 0
      (linesFrom 2 [ruleHead description, indented 1 text])
      [ruleBlock description text] := by
  have hBody : linesFrom 3 [indented 1 text] =
      [⟨text, 1, 3⟩] :=
    linesFrom_cons_of_ofRow? []
      (ofRow?_indented 3 1 hSolid hMark)
  have hIndent : ∀ line ∈ linesFrom 3 [indented 1 text],
      0 < line.indent := by
    rw [hBody]
    intro line hLine
    rw [List.mem_singleton.mp hLine]
    exact Nat.one_pos
  have hCut := isCut_of_keyword .rule 2
    (isSolid_inQuotes description) hIndent
  rw [hBody] at hCut
  exact hCut

/- A document of one rule is read as that rule. -/
theorem parse_ruleDocument
    (file : String)
    (hName : IsQuotable appName)
    (hDescription : '\n' ∉ description)
    (hLine : '\n' ∉ text)
    (hSolid : IsSolid text)
    (hMark : text.head? ≠ some '#')
    (hParts : Rule.partsOfText text =
      .ok (condition, action)) :
    Spec.parse file (ruleDocument appName description text) =
      .ok {
        appName := String.ofList appName
        entities := []
        screens := []
        flows := []
        rules :=
          [⟨String.ofList (trim description), condition,
            action, ⟨file, 2⟩⟩]
        integrations := []
        events := [] } := by
  have hRows : ∀ row ∈ [ruleHead description,
      indented 1 text], '\n' ∉ row := by
    have hQuoted : '\n' ∉ inQuotes description :=
      not_mem_inQuotes (by decide) hDescription
    have hKeyword : '\n' ∉ "rule ".toList := by decide
    simp only [List.forall_mem_cons]
    exact ⟨List.not_mem_append hKeyword hQuoted,
      not_mem_indented 1 hLine, List.forall_mem_nil _⟩
  have hCut := isCut_ruleBlock description hSolid hMark
  have hRule := (isRule_ruleBlock description text).ofBlock_eq
    file hParts
  rw [rule_ruleBlock] at hRule
  have hRead :
      [ruleBlock description text].map
          (Declaration.ofBlock file) =
        [Declaration.rule ⟨String.ofList (trim description),
          condition, action, ⟨file, 2⟩⟩].map .ok :=
    congrArg ([·]) hRule
  exact parse_documentText file hName hRows hCut hRead

end Blueprint

------------------------------------------------------------
-- Issues of a Rule in a Document
------------------------------------------------------------

namespace Blueprint

variable {file source : String}
variable {spec : Spec}

/- No two rules of a document stand at one place. -/
theorem Spec.rules_location_pairwise
    (hSpec : parse file source = .ok spec) :
    spec.rules.Pairwise
      (fun a b => a.location ≠ b.location) := by
  have hOrder := ofKind_line_pairwise hSpec .rule
  rw [ofKind, List.pairwise_map] at hOrder
  apply hOrder.imp
  intro a b hLess hSame
  dsimp only [Declaration.location] at hLess
  rw [hSame] at hLess
  exact Nat.lt_irrefl _ hLess

/-
  A document tells of the incomplete question of a rule at
  the place of the rule, and of nothing else there.
-/
theorem issuesAt_location
    {r : Rule}
    (hSpec : Spec.parse file source = .ok spec)
    (hRule : r ∈ spec.rules) :
    issuesAt .ruleAiIncomplete r.location spec.issues =
      r.incompleteIssues := by
  have hPlaces := Spec.rules_location_pairwise hSpec
  rw [issuesAt_ruleAiIncomplete]
  refine (flatMap_eq_of_pairwise hPlaces hRule ?_ ?_).trans
    (if_pos rfl)
  · intro other hOther
    exact if_neg hOther
  · intro other hOther
    exact if_neg hOther.symm

end Blueprint
