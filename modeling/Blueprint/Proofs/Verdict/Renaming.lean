import Blueprint.Proofs.Issue.Selection
import Blueprint.Proofs.Text.Uppercase

/-
  The names that are proposed for entities and screens whose
  own names are out of style. A proposal is in style exactly
  if every word of the name is ASCII once it is capitalized
  and the first letter or number is no digit; in particular
  there has to be one. Taking over the proposal removes the
  finding in just these cases.

  Main definitions:
    * `nameWords`
    * `IsRenamable`
    * `Issue.ProposesStyle`
    * `ProposesNames`
    * `NamesProposed`

  Main statements:
    * `isPascalCase_toPascalCase_iff`
    * `isRenamable_iff_of_isIdentifier`
    * `namesProposed`
    * `not_proposesStyle_accountSpec`
-/

------------------------------------------------------------
-- Words of a Name
------------------------------------------------------------

namespace Blueprint

open Text

/- The runs of letters and numbers in a name. -/
def nameWords (name : List Char) : List (List Char) :=
  (splitWhere (fun c => !isAlphanumeric c) name).filter
    fun word => !word.isEmpty

/- Nothing but the words of a name is written together. -/
theorem toPascalCase_eq_flatMap (name : List Char) :
    toPascalCase name =
      (nameWords name).flatMap capitalize := by
  have hPieces : ∀ pieces : List (List Char),
      pieces.flatMap capitalize =
        (pieces.filter fun word => !word.isEmpty).flatMap
          capitalize := by
    intro pieces
    induction pieces with
    | nil => rfl
    | cons piece pieces ih =>
        cases piece with
        | nil => simpa [capitalize] using ih
        | cons c piece => simpa using ih
  exact hPieces _

theorem ne_nil_of_mem_nameWords
    {name word : List Char}
    (h : word ∈ nameWords name) :
    word ≠ [] := by
  simpa using (List.mem_filter.mp h).2

/- The words of a name are made of its letters and numbers. -/
theorem mem_of_mem_nameWords
    {name word : List Char}
    (h : word ∈ nameWords name)
    {c : Char}
    (hChar : c ∈ word) :
    c ∈ name ∧ isAlphanumeric c = true := by
  have hPiece := (List.mem_filter.mp h).1
  rcases exists_append_of_mem_splitWhere hPiece with
    ⟨before, after, hName, _⟩
  refine ⟨?_, ?_⟩
  · rw [hName]
    simp [hChar]
  · simpa using
      forall_false_of_mem_splitWhere hPiece c hChar

/-
  The first letter or number of a name starts its first
  word. The induction drops what stands before it.
-/
theorem find?_isAlphanumeric_eq (name : List Char) :
    name.find? isAlphanumeric =
      (nameWords name).head?.bind List.head? := by
  induction name with
  | nil => rfl
  | cons c name ih =>
      unfold nameWords at ih ⊢
      unfold splitWhere
      by_cases hChar : isAlphanumeric c = true
      · cases hSplit :
            splitWhere (fun d => !isAlphanumeric d) name with
        | nil => exact absurd hSplit (splitWhere_ne_nil _ _)
        | cons first more => simp [hChar, consFirst]
      · simp [hChar, ih]

end Blueprint

------------------------------------------------------------
-- Names That Can Be Written in Style
------------------------------------------------------------

namespace Blueprint

open Text

/- A word of ASCII letters and digits once it is capitalized. -/
def isAsciiWord : List Char → Bool
| [] => true
| c :: rest =>
    (c.isAlphanum || asciiInUppercase.contains c) &&
      rest.all Char.isAlphanum

/-
  A name can be written in style: it has a letter or number,
  the first one is no digit, and the words are ASCII.
-/
structure IsRenamable (name : List Char) : Prop where
  begins : ∃ c, name.find? isAlphanumeric = some c ∧
    c.isDigit = false
  ascii : ∀ word ∈ nameWords name, isAsciiWord word = true

theorem all_isAlphanum_capitalize_iff (word : List Char) :
    (capitalize word).all Char.isAlphanum = true ↔
      isAsciiWord word = true := by
  cases word with
  | nil => simp [capitalize, isAsciiWord]
  | cons c rest =>
      rw [capitalize, List.all_append, Bool.and_eq_true,
        all_isAlphanum_uppercaseChar_iff]
      simp [isAsciiWord]

/- A word of this kind starts with a capital, or a digit. -/
theorem head?_capitalize_any_isUpper
    {c : Char}
    {rest : List Char}
    (h : isAsciiWord (c :: rest) = true)
    (more : List Char) :
    (capitalize (c :: rest) ++ more).head?.any Char.isUpper =
      !c.isDigit := by
  have hFirst : c.isAlphanum = true ∨
      c ∈ asciiInUppercase := by
    simp only [isAsciiWord, Bool.and_eq_true,
      Bool.or_eq_true, List.contains_iff_mem] at h
    exact h.1
  rw [← head?_uppercaseChar_any_isUpper hFirst, capitalize]
  cases hUpper : uppercaseChar c with
  | nil => exact absurd hUpper (uppercaseChar_ne_nil c)
  | cons d upper => rfl

/- A name in style is a capital among letters and digits. -/
theorem isPascalCase_iff (name : List Char) :
    isPascalCase name = true ↔
      name.head?.any Char.isUpper = true ∧
        name.all Char.isAlphanum = true := by
  cases name with
  | nil => simp [isPascalCase]
  | cons c rest =>
      have hLetter : c.isUpper = true →
          c.isAlphanum = true := by
        intro hUpper
        unfold Char.isAlphanum Char.isAlpha
        rw [hUpper, Bool.true_or, Bool.true_or]
      simp only [isPascalCase, List.head?_cons,
        Option.any_some, List.all_cons, Bool.and_eq_true]
      tauto

/- The proposal is in style just where the name allows it. -/
theorem isPascalCase_toPascalCase_iff (name : List Char) :
    isPascalCase (toPascalCase name) = true ↔
      IsRenamable name := by
  have hAscii :
      (toPascalCase name).all Char.isAlphanum = true ↔
        ∀ word ∈ nameWords name,
          isAsciiWord word = true := by
    rw [toPascalCase_eq_flatMap, List.all_flatMap,
      List.all_eq_true]
    simp only [all_isAlphanum_capitalize_iff]
  have hBegins : (∀ word ∈ nameWords name,
      isAsciiWord word = true) →
        ((toPascalCase name).head?.any Char.isUpper = true ↔
          ∃ c, name.find? isAlphanumeric = some c ∧
            c.isDigit = false) := by
    intro hWords
    rw [toPascalCase_eq_flatMap, find?_isAlphanumeric_eq]
    cases hName : nameWords name with
    | nil => simp
    | cons word more =>
        have hMem : word ∈ nameWords name := by
          rw [hName]
          exact List.mem_cons_self
        cases word with
        | nil => exact absurd rfl (ne_nil_of_mem_nameWords hMem)
        | cons c rest =>
            rw [List.flatMap_cons,
              head?_capitalize_any_isUpper (hWords _ hMem)]
            simp
  rw [isPascalCase_iff, hAscii]
  constructor
  · rintro ⟨hCapital, hWords⟩
    exact ⟨(hBegins hWords).mp hCapital, hWords⟩
  · intro hName
    exact ⟨(hBegins hName.ascii).mpr hName.begins,
      hName.ascii⟩

/- Every word is ASCII where all letters and numbers are. -/
theorem isAsciiWord_of_mem_nameWords
    {name word : List Char}
    (hName : ∀ c ∈ name, isAlphanumeric c = true →
      c.isAlphanum = true)
    (h : word ∈ nameWords name) :
    isAsciiWord word = true := by
  have hWord : ∀ c ∈ word, c.isAlphanum = true := by
    intro c hChar
    rcases mem_of_mem_nameWords h hChar with
      ⟨hMem, hLetter⟩
    exact hName c hMem hLetter
  cases word with
  | nil => rfl
  | cons c rest =>
      rw [List.forall_mem_cons] at hWord
      simpa [isAsciiWord, hWord.1] using hWord.2

/- In an identifier, only underscores separate the words. -/
theorem isAlphanumeric_of_isIdentifierChar
    {c : Char}
    (h : isIdentifierChar c = true) :
    isAlphanumeric c = c.isAlphanum ∧
      isAlphanumeric c = (c != '_') := by
  have hAscii := (isWordChar_of_isIdentifierChar h).1
  rw [isAlphanumeric, if_pos hAscii]
  refine ⟨rfl, ?_⟩
  exact forall_ascii (p := fun d =>
    isIdentifierChar d = true → d.isAlphanum = (d != '_'))
      (by decide) hAscii h

/-
  An identifier can be written in style if it has more than
  underscores and no digit comes first behind them.
-/
theorem isRenamable_iff_of_isIdentifier
    {name : List Char}
    (h : isIdentifier name = true) :
    IsRenamable name ↔
      ∃ c, name.find? (· != '_') = some c ∧
        c.isDigit = false := by
  have hChars := forall_isIdentifierChar h
  have hFind : name.find? isAlphanumeric =
      name.find? (· != '_') := by
    rw [← List.head?_filter, ← List.head?_filter]
    congr 1
    apply List.filter_congr
    intro c hMem
    exact (isAlphanumeric_of_isIdentifierChar
      (hChars c hMem)).2
  constructor
  · intro hName
    rw [← hFind]
    exact hName.begins
  · intro hBegins
    rw [← hFind] at hBegins
    refine ⟨hBegins, ?_⟩
    intro word hWord
    apply isAsciiWord_of_mem_nameWords ?_ hWord
    intro c hMem hLetter
    rwa [← (isAlphanumeric_of_isIdentifierChar
      (hChars c hMem)).1]

end Blueprint

------------------------------------------------------------
-- Proposals
------------------------------------------------------------

namespace Blueprint

open Text

/- The issue proposes a name, and the name is in style. -/
def Issue.ProposesStyle (i : Issue) : Prop :=
  ∃ better : String,
    i.suggestion = some s!"rename to '{better}'" ∧
      better ≠ "" ∧ isPascalCase better.toList = true

/-
  What the issues of a code say about the names of a kind of
  declaration, where `suggest` is the issue about one.
-/
structure ProposesNames
    {α : Type}
    (name : α → String)
    (rename : String → α → α)
    (suggest : α → Issue)
    (issuesOf : List α → List Issue) : Prop where
  told : ∀ declared,
    issuesOf declared =
      (declared.filter fun d =>
        !isPascalCase (name d).toList).map suggest
  usable : ∀ d,
    (suggest d).ProposesStyle ↔ IsRenamable (name d).toList
  removed : ∀ before d after,
    issuesOf (before ++
        rename (betterName (name d)) d :: after) =
      issuesOf (before ++ after) ↔
        IsRenamable (name d).toList

/- The names proposed for a specification. -/
structure NamesProposed (spec : Spec) : Prop where
  entities : ProposesNames Entity.name
    (fun better e => { e with name := better })
    (fun e => .of
      (.info (.lintEntityName e.name (betterName e.name)))
      e.location)
    (fun entities => withCodes [.lintEntityName]
      { spec with entities := entities }.issues)
  screens : ProposesNames Screen.name
    (fun better s => { s with name := better })
    (fun s => .of
      (.info (.lintScreenName s.name (betterName s.name)))
      s.location)
    (fun screens => withCodes [.lintScreenName]
      { spec with screens := screens }.issues)
  identifiers : ∀ name, isIdentifier name = true →
    (IsRenamable name ↔
      ∃ c, name.find? (· != '_') = some c ∧
        c.isDigit = false)
  blank : ∀ name, betterName name = "" ↔
    ∀ c ∈ name.toList, isAlphanumeric c = false
  kept : ∀ name, isPascalCase name.toList = true →
    betterName name = name

theorem isPascalCase_betterName_iff (name : String) :
    isPascalCase (betterName name).toList = true ↔
      IsRenamable name.toList := by
  rw [betterName, String.toList_ofList,
    isPascalCase_toPascalCase_iff]

/- The proposal is the only one that an issue makes. -/
theorem proposesStyle_iff
    {i : Issue}
    (better : String)
    (h : i.suggestion = some s!"rename to '{better}'") :
    i.ProposesStyle ↔
      isPascalCase better.toList = true := by
  constructor
  · rintro ⟨other, hOther, _, hStyle⟩
    rw [h, Option.some_inj] at hOther
    have hSame : better = other := by
      simpa [String.append_left_inj, String.append_right_inj,
        toString] using hOther
    rwa [hSame]
  · intro hStyle
    refine ⟨better, h, ?_, hStyle⟩
    rintro rfl
    cases hStyle

end Blueprint

------------------------------------------------------------
-- Findings about Names
------------------------------------------------------------

namespace Blueprint

section Codes

variable {codes : List Code}
variable {location : Location}

/- Of the findings about one thing, the first is selected. -/
theorem withCodes_map_of_append
    {style : Bool}
    {finding : Finding}
    {others : List Finding}
    (hCode : finding.code ∈ codes)
    (hOthers : ∀ other ∈ others, other.code ∉ codes) :
    withCodes codes
        (((if style then [] else [finding]) ++ others).map
          (.of · location)) =
      if style then [] else [.of finding location] := by
  rw [List.map_append, withCodes_append,
    withCodes_map_of_eq_nil hOthers, List.append_nil]
  cases style with
  | true => rfl
  | false => simp [hCode]

/- Where every item tells at most of itself, some do. -/
theorem withCodes_flatMap_of_ite
    {α : Type}
    {find : α → List Issue}
    {style : α → Bool}
    {suggest : α → Issue}
    (h : ∀ x, withCodes codes (find x) =
      if style x then [] else [suggest x])
    (items : List α) :
    withCodes codes (items.flatMap find) =
      (items.filter fun x => !style x).map suggest := by
  rw [withCodes_flatMap]
  induction items with
  | nil => rfl
  | cons x items ih =>
      rw [List.flatMap_cons, h, ih]
      cases hStyle : style x with
      | true => simp [hStyle]
      | false => simp [hStyle]

end Codes

theorem withCodes_entityStyleIssues
    (shown : List String)
    (e : Entity) :
    withCodes [.lintEntityName] (entityStyleIssues shown e) =
      if isPascalCase e.name.toList then
        []
      else
        [.of
          (.info (.lintEntityName e.name (betterName e.name)))
          e.location] := by
  have hFields : withCodes [.lintEntityName]
      (e.fields.flatMap fun f =>
        (fieldStyle e.name f).map (.of · f.location)) =
          [] :=
    withCodes_flatMap_of_apart
      (fun _ _ => tellsOf_of_mem_fieldStyle) (by decide)
  rw [entityStyleIssues, withCodes_append, hFields,
    List.append_nil, entityStyle, List.append_assoc]
  apply withCodes_map_of_append (by simp [Matter.code])
  intro other hMem
  simp only [List.mem_append, List.mem_ite_nil_left,
    List.mem_singleton] at hMem
  rcases hMem with ⟨_, rfl⟩ | ⟨_, rfl⟩
  all_goals simp [Matter.code]

theorem withCodes_screenStyle (s : Screen) :
    withCodes [.lintScreenName]
        ((screenStyle s).map (.of · s.location)) =
      if isPascalCase s.name.toList then
        []
      else
        [.of
          (.info (.lintScreenName s.name (betterName s.name)))
          s.location] := by
  rw [screenStyle]
  apply withCodes_map_of_append (by simp [Matter.code])
  intro other hMem
  simp only [List.mem_ite_nil_right,
    List.mem_singleton] at hMem
  rcases hMem with ⟨_, rfl⟩
  simp [Matter.code]

/- Flows and rules have no findings with these codes. -/
theorem withCodes_issues_of_lint
    {code : Code}
    (hCode : code ∈ [Code.lintEntityName, .lintScreenName])
    (spec : Spec) :
    withCodes [code] spec.issues =
      withCodes [code] (spec.entities.flatMap
        (entityStyleIssues
          (spec.screens.filterMap Screen.entity))) ++
      withCodes [code] (spec.screens.flatMap fun s =>
        (screenStyle s).map (.of · s.location)) := by
  have hCheck : (Code.style, styleIssues spec) ∈
      spec.checks := by
    simp [Spec.checks]
  have hOwn : [code] ⊆ Code.style := by
    revert code
    decide
  have hFlowCodes : ∀ c ∈ [Code.lintFlowName,
      .lintEmptyFlow, .lintLongFlow], c ∉ [code] := by
    revert code
    decide
  have hRuleCodes :
      ∀ c ∈ [Code.lintRuleWithoutAction], c ∉ [code] := by
    revert code
    decide
  have hFlows : withCodes [code] (spec.flows.flatMap fun f =>
      (flowStyle f).map (.of · f.location)) = [] :=
    withCodes_flatMap_of_apart
      (fun _ _ => tellsOf_of_mem_flowStyle) hFlowCodes
  have hRules : withCodes [code] (spec.rules.flatMap fun r =>
      (ruleStyle r).map (.of · r.location)) = [] :=
    withCodes_flatMap_of_apart
      (fun _ _ => tellsOf_of_mem_ruleStyle) hRuleCodes
  rw [withCodes_issues hCheck hOwn]
  simp only [styleIssues, withCodes_append, hFlows, hRules,
    List.append_nil]

/- The findings about entity names, entity by entity. -/
theorem withCodes_lintEntityName_issues (spec : Spec) :
    withCodes [.lintEntityName] spec.issues =
      (spec.entities.filter fun e =>
        !isPascalCase e.name.toList).map fun e =>
          .of
            (.info (.lintEntityName e.name (betterName e.name)))
            e.location := by
  have hScreens : withCodes [.lintEntityName]
      (spec.screens.flatMap fun s =>
        (screenStyle s).map (.of · s.location)) = [] :=
    withCodes_flatMap_of_apart
      (fun _ _ => tellsOf_of_mem_screenStyle) (by decide)
  rw [withCodes_issues_of_lint (by decide), hScreens,
    List.append_nil,
    withCodes_flatMap_of_ite (withCodes_entityStyleIssues _)]

/- The findings about screen names, screen by screen. -/
theorem withCodes_lintScreenName_issues (spec : Spec) :
    withCodes [.lintScreenName] spec.issues =
      (spec.screens.filter fun s =>
        !isPascalCase s.name.toList).map fun s =>
          .of
            (.info (.lintScreenName s.name (betterName s.name)))
            s.location := by
  have hEntities : ∀ shown, withCodes [.lintScreenName]
      (spec.entities.flatMap (entityStyleIssues shown)) =
        [] := by
    intro shown
    rw [withCodes_flatMap, List.flatMap_eq_nil_iff]
    intro e _
    rw [entityStyleIssues, withCodes_append,
      withCodes_flatMap_of_apart
        (fun _ _ => tellsOf_of_mem_fieldStyle) (by decide),
      withCodes_map_of_eq_nil, List.append_nil]
    intro finding hMem hCode
    exact absurd (tellsOf_of_mem_entityStyle hMem).1
      (by simp [List.mem_singleton.mp hCode])
  rw [withCodes_issues_of_lint (by decide), hEntities,
    List.nil_append,
    withCodes_flatMap_of_ite withCodes_screenStyle]

end Blueprint

------------------------------------------------------------
-- Proposals of a Specification
------------------------------------------------------------

namespace Blueprint

open Text

/-
  Where the issues of a code are those of the names out of
  style, and each proposes the better name.
-/
theorem ProposesNames.of_told
    {α : Type}
    {name : α → String}
    {rename : String → α → α}
    {suggest : α → Issue}
    {issuesOf : List α → List Issue}
    (hTold : ∀ declared, issuesOf declared =
      (declared.filter fun d =>
        !isPascalCase (name d).toList).map suggest)
    (hSuggest : ∀ d, (suggest d).suggestion =
      some s!"rename to '{betterName (name d)}'")
    (hRename : ∀ better d, name (rename better d) = better) :
    ProposesNames name rename suggest issuesOf where
  told := hTold
  usable := by
    intro d
    rw [proposesStyle_iff _ (hSuggest d),
      isPascalCase_betterName_iff]
  removed := by
    intro before d after
    rw [← isPascalCase_betterName_iff, hTold, hTold]
    simp only [List.filter_append, List.filter_cons,
      List.map_append, hRename, List.append_cancel_left_eq]
    cases hStyle :
        isPascalCase (betterName (name d)).toList with
    | true => simp
    | false => simp

/- A proposal is empty where there is nothing to write. -/
theorem betterName_eq_empty_iff (name : String) :
    betterName name = "" ↔
      ∀ c ∈ name.toList, isAlphanumeric c = false := by
  rw [betterName, String.ofList_eq_empty_iff,
    toPascalCase_eq_flatMap]
  have hFind := find?_isAlphanumeric_eq name.toList
  cases hName : nameWords name.toList with
  | nil =>
      rw [hName, List.head?_nil, Option.bind_none,
        List.find?_eq_none] at hFind
      simpa using hFind
  | cons word more =>
      have hWord : word ∈ nameWords name.toList := by
        rw [hName]
        exact List.mem_cons_self
      cases word with
      | nil => exact absurd rfl (ne_nil_of_mem_nameWords hWord)
      | cons c rest =>
          have hFirst :=
            mem_of_mem_nameWords hWord List.mem_cons_self
          constructor
          · intro hNone
            simp [capitalize, uppercaseChar_ne_nil] at hNone
          · intro hNone
            rw [hNone c hFirst.1] at hFirst
            cases hFirst.2

/- A name in style is its own proposal. -/
theorem betterName_of_isPascalCase
    {name : String}
    (h : isPascalCase name.toList = true) :
    betterName name = name := by
  rcases (isPascalCase_iff name.toList).mp h with
    ⟨hCapital, hAll⟩
  have hWhole : ∀ c ∈ name.toList,
      (!isAlphanumeric c) = false := by
    intro c hMem
    have hChar := List.all_eq_true.mp hAll c hMem
    rw [(isAlphanumeric_of_isIdentifierChar
      (isIdentifierChar_of_isAlphanum hChar)).1, hChar]
    rfl
  have hFirst : capitalize name.toList = name.toList := by
    cases hName : name.toList with
    | nil => rfl
    | cons c rest =>
        rw [hName, List.all_cons, Bool.and_eq_true] at hAll
        rw [hName, List.head?_cons,
          Option.any_some] at hCapital
        have hAscii := toNat_lt_of_isAlphanum hAll.1
        have hUpper : c.toUpper = c :=
          forall_ascii (p := fun d =>
            d.isUpper = true → d.toUpper = d)
            (by decide) hAscii hCapital
        rw [capitalize, uppercaseChar_of_ascii hAscii,
          hUpper, List.singleton_append]
  rw [betterName, toPascalCase, splitWhere_of_forall hWhole,
    List.flatMap_singleton, hFirst, String.ofList_toList]

/- What is proposed to whom, and where it is of use. -/
theorem namesProposed (spec : Spec) :
    NamesProposed spec where
  entities := .of_told
    (fun _ => withCodes_lintEntityName_issues _)
    (fun _ => rfl)
    (fun _ _ => rfl)
  screens := .of_told
    (fun _ => withCodes_lintScreenName_issues _)
    (fun _ => rfl)
    (fun _ _ => rfl)
  identifiers := fun _ => isRenamable_iff_of_isIdentifier
  blank := betterName_eq_empty_iff
  kept := fun _ => betterName_of_isPascalCase

/- A document with names that cannot be written in style. -/
def accountSource : String :=
  "app \"T\"\nentity _\n  x: text, required\n" ++
    "entity _2fa\n  x: text, required\n" ++
    "screen \"über uns\"\n  kind: dashboard\n" ++
    "  widgets:\n    \"W\" (count)\n"

/- What it declares. -/
def accountSpec : Spec where
  appName := "T"
  entities := [
    { name := "_"
      fields := [⟨"x", .scalar .text, { required := true },
        ⟨"account", 3⟩⟩]
      location := ⟨"account", 2⟩ },
    { name := "_2fa"
      fields := [⟨"x", .scalar .text, { required := true },
        ⟨"account", 5⟩⟩]
      location := ⟨"account", 4⟩ }]
  screens := [{
    name := "über uns"
    kind := .dashboard
    entity := none
    fields := []
    filters := []
    actions := []
    primaryAction := none
    steps := []
    widgets := [⟨"W", .count, ⟨"account", 9⟩⟩]
    location := ⟨"account", 6⟩ }]
  flows := []
  rules := []
  integrations := []
  events := []

/-
  None of its three proposals is in style: one is empty, one
  starts with a digit and one has a letter beyond ASCII.
-/
theorem not_proposesStyle_accountSpec :
    Spec.parse "account" accountSource = .ok accountSpec ∧
      (withCodes [.lintEntityName, .lintScreenName]
          accountSpec.issues).map Issue.suggestion =
        [some "rename to ''", some "rename to '2fa'",
         some "rename to 'ÜberUns'"] ∧
      ∀ i ∈ withCodes [.lintEntityName, .lintScreenName]
        accountSpec.issues, ¬ i.ProposesStyle := by
  have hIssues : withCodes [.lintEntityName, .lintScreenName]
      accountSpec.issues =
        [.of (.info (.lintEntityName "_" "")) ⟨"account", 2⟩,
         .of (.info (.lintEntityName "_2fa" "2fa"))
           ⟨"account", 4⟩,
         .of (.info (.lintScreenName "über uns" "ÜberUns"))
           ⟨"account", 6⟩] := by
    decide +kernel
  refine ⟨by decide +kernel, ?_, ?_⟩
  · rw [hIssues]
    rfl
  · rw [hIssues]
    simp only [List.forall_mem_cons]
    refine ⟨?_, ?_, ?_, List.forall_mem_nil _⟩
    · rw [proposesStyle_iff "" rfl]
      decide
    · rw [proposesStyle_iff "2fa" rfl]
      decide
    · rw [proposesStyle_iff "ÜberUns" rfl]
      decide

end Blueprint
