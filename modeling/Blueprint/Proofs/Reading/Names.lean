import Blueprint.Proofs.Places.Lines
import Blueprint.Proofs.Text.Identifier
import Blueprint.Proofs.Text.Quoted
import Blueprint.Verify

/-
  Declarations have the names that are written behind their
  keywords: an identifier, or any text in quotes. A head
  without anything behind its keyword is refused, but one
  with nothing in its quotes is not.

  Main definitions:
    * `WritesName`
    * `Line.named`, `Line.IsNameless`
    * `Declaration.name?`, `Spec.AllNamed`
    * `NamesKept`

  Main statements:
    * `readName_eq_ok_iff`
    * `Declaration.exists_writesName_of_ofBlock`
    * `Spec.allNamed_iff`
    * `namesKept`
-/

------------------------------------------------------------
-- Names in Heads
------------------------------------------------------------

namespace Blueprint

open Text

/- A text names a declaration: a word, or a text in quotes. -/
inductive WritesName : List Char → String → Prop
| bare
    {word : List Char}
    (hWord : isIdentifier word = true) :
    WritesName word (String.ofList word)
| quoted
    (text : List Char) :
    WritesName (inQuotes text) (String.ofList text)

/- A name is read from exactly the texts that name. -/
theorem readName_eq_ok_iff
    {text : List Char}
    {name : String}
    (k : Keyword)
    (hText : trim text = text) :
    readName k text = .ok name ↔ WritesName text name := by
  constructor
  · intro hName
    unfold readName at hName
    split at hName
    · cases hName
    · split at hName
      · rename_i inner hInner
        cases hName
        rw [(unquote?_eq_some_iff hText).mp hInner]
        exact .quoted inner
      · split at hName
        · rename_i hWord
          cases hName
          exact .bare hWord
        · cases hName
  · intro hNames
    cases hNames with
    | bare hWord =>
        unfold readName
        rw [if_neg (by simpa using isIdentifier_ne_nil hWord),
          unquote?_identifier hWord]
        simp only [hWord, if_true]
    | quoted inner =>
        unfold readName
        rw [if_neg (by simp [inQuotes]), unquote?_inQuotes]

/- A name is written without blanks at its ends. -/
theorem WritesName.isSolid
    {text : List Char}
    {name : String}
    (h : WritesName text name) :
    IsSolid text := by
  cases h with
  | bare hWord => exact isSolid_of_isIdentifier hWord
  | quoted inner => exact isSolid_inQuotes inner

/- Names of blanks are those in quotes around blanks. -/
theorem WritesName.blank_iff
    {text : List Char}
    {name : String}
    (h : WritesName text name) :
    trim name.toList = [] ↔
      ∃ inner, text = inQuotes inner ∧ trim inner = [] := by
  cases h with
  | bare hWord =>
      rw [String.toList_ofList,
        (isSolid_of_isIdentifier hWord).trim_eq]
      constructor
      · intro hNil
        exact absurd hNil (isIdentifier_ne_nil hWord)
      · rintro ⟨inner, rfl, _⟩
        exact absurd List.mem_cons_self
          (not_mem_of_isIdentifier hWord (by decide))
  | quoted inner =>
      rw [String.toList_ofList]
      constructor
      · intro hNil
        exact ⟨inner, rfl, hNil⟩
      · rintro ⟨other, hSame, hNil⟩
        rw [inQuotes_injective hSame]
        exact hNil

namespace Line

/- The text behind the first word of a line. -/
def named (line : Line) : List Char :=
  (splitKeyword line.text).2

/- It has no blanks around it. -/
theorem trim_named (line : Line) :
    trim line.named = line.named := by
  unfold named splitKeyword
  split
  · exact trim_trim _
  · rfl

/-
  A line opens a declaration of a kind with names, and has
  nothing but blanks in the quotes of the name.
-/
def IsNameless (line : Line) : Prop :=
  ∃ k, k ≠ Keyword.rule ∧ line.opens k = true ∧
    ∃ inner, line.named = inQuotes inner ∧ trim inner = []

end Line

end Blueprint

------------------------------------------------------------
-- Names of Declarations
------------------------------------------------------------

namespace Blueprint

open Text

variable {file : String}
variable {b : Block}

/- The properties of an integration do not rename it. -/
theorem Integration.name_foldl_set
    (i : Integration)
    (properties : List IntegrationProperty) :
    (properties.foldl Integration.set i).name = i.name := by
  induction properties generalizing i with
  | nil => rfl
  | cons property properties ih =>
      rw [List.foldl_cons, ih]
      cases property <;> rfl

/- The name of a screen is read from its head. -/
theorem Screen.readName_of_ofBlock
    {rest : List Char}
    {s : Screen}
    (h : Screen.ofBlock file rest b = .ok s) :
    readName .screen rest = .ok s.name := by
  obtain ⟨name, hName, hBody⟩ := exists_of_bind_eq_ok h
  obtain ⟨properties, _, hScreen⟩ :=
    exists_of_bind_eq_ok hBody
  dsimp only at hScreen
  split at hScreen
  · rename_i screen hParts
    cases hScreen
    obtain ⟨kind, _, rfl⟩ := Option.map_eq_some_iff.mp hParts
    exact eq_ok_of_blame hName
  · cases hScreen

namespace Declaration

/- The name of a declaration. Rules are only described. -/
def name? : Declaration → Option String
| .entity e => some e.name
| .screen s => some s.name
| .flow f => some f.name
| .rule _ => none
| .integration i => some i.name
| .event e => some e.name

/- The name of a declaration is read from its head. -/
theorem exists_readName_of_ofKeyword
    {rest : List Char}
    {k : Keyword}
    {d : Declaration}
    (hRule : k ≠ .rule)
    (h : ofKeyword file rest b k = .ok d) :
    ∃ name, d.name? = some name ∧
      readName k rest = .ok name := by
  cases k with
  | entity =>
      obtain ⟨e, he, rfl⟩ := exists_of_map_eq_ok h
      obtain ⟨name, fields, hName, _, rfl⟩ :=
        exists_of_flatBlock he
      exact ⟨name, rfl, hName⟩
  | screen =>
      obtain ⟨s, hs, rfl⟩ := exists_of_map_eq_ok h
      exact ⟨s.name, rfl, Screen.readName_of_ofBlock hs⟩
  | flow =>
      obtain ⟨f, hf, rfl⟩ := exists_of_map_eq_ok h
      obtain ⟨name, steps, hName, _, rfl⟩ :=
        exists_of_flatBlock hf
      exact ⟨name, rfl, hName⟩
  | rule => exact absurd rfl hRule
  | integration =>
      obtain ⟨i, hi, rfl⟩ := exists_of_map_eq_ok h
      obtain ⟨name, properties, hName, _, rfl⟩ :=
        exists_of_flatBlock hi
      refine ⟨name, ?_, hName⟩
      exact congrArg some
        (Integration.name_foldl_set _ properties)
  | event =>
      obtain ⟨e, he, rfl⟩ := exists_of_map_eq_ok h
      obtain ⟨name, fields, hName, _, rfl⟩ :=
        exists_of_flatBlock he
      exact ⟨name, rfl, hName⟩

/- A declaration has the name that its head writes. -/
theorem exists_writesName_of_ofBlock
    {k : Keyword}
    {d : Declaration}
    (hRule : k ≠ .rule)
    (hOpens : b.head.opens k = true)
    (h : ofBlock file b = .ok d) :
    ∃ name, d.name? = some name ∧
      WritesName b.head.named name := by
  rw [ofBlock_of_opens hOpens] at h
  obtain ⟨name, hSome, hName⟩ :=
    exists_readName_of_ofKeyword hRule h
  exact ⟨name, hSome,
    (readName_eq_ok_iff k b.head.trim_named).mp hName⟩

/- A head that ends with its keyword is refused. -/
theorem ofBlock_of_named_eq_nil
    {k : Keyword}
    (hRule : k ≠ .rule)
    (hOpens : b.head.opens k = true)
    (hNamed : b.head.named = []) :
    ofBlock file b =
      .error ⟨b.head.location file, .missingName k⟩ := by
  rw [ofBlock_of_opens hOpens, ← Line.named, hNamed]
  cases k with
  | rule => exact absurd rfl hRule
  | entity | screen | flow | integration | event => rfl

end Declaration

end Blueprint

------------------------------------------------------------
-- Names of Documents
------------------------------------------------------------

namespace Blueprint

open Text

/- A name with more than blanks in it. -/
def IsName (name : String) : Prop :=
  trim name.toList ≠ []

instance (name : String) : Decidable (IsName name) :=
  inferInstanceAs (Decidable (¬ _ = _))

namespace Spec

/- Every declaration but the rules has a name. -/
structure AllNamed (spec : Spec) : Prop where
  entities : ∀ e ∈ spec.entities, IsName e.name
  screens : ∀ s ∈ spec.screens, IsName s.name
  flows : ∀ f ∈ spec.flows, IsName f.name
  integrations : ∀ i ∈ spec.integrations, IsName i.name
  events : ∀ e ∈ spec.events, IsName e.name

/- The kinds with names are those other than the rules. -/
theorem allNamed_iff_ofKind
    {spec : Spec} :
    spec.AllNamed ↔
      ∀ k, k ≠ .rule → ∀ d ∈ spec.ofKind k,
        ∀ name, d.name? = some name → IsName name := by
  constructor
  · intro hAll k hRule d hMem name hName
    cases k with
    | rule => exact absurd rfl hRule
    | entity =>
        obtain ⟨e, he, rfl⟩ := List.mem_map.mp hMem
        cases hName
        exact hAll.entities e he
    | screen =>
        obtain ⟨s, hs, rfl⟩ := List.mem_map.mp hMem
        cases hName
        exact hAll.screens s hs
    | flow =>
        obtain ⟨f, hf, rfl⟩ := List.mem_map.mp hMem
        cases hName
        exact hAll.flows f hf
    | integration =>
        obtain ⟨i, hi, rfl⟩ := List.mem_map.mp hMem
        cases hName
        exact hAll.integrations i hi
    | event =>
        obtain ⟨e, he, rfl⟩ := List.mem_map.mp hMem
        cases hName
        exact hAll.events e he
  · intro hAll
    constructor
    case entities =>
      intro e he
      exact hAll .entity (by decide) (.entity e)
        (List.mem_map_of_mem he) e.name rfl
    case screens =>
      intro s hs
      exact hAll .screen (by decide) (.screen s)
        (List.mem_map_of_mem hs) s.name rfl
    case flows =>
      intro f hf
      exact hAll .flow (by decide) (.flow f)
        (List.mem_map_of_mem hf) f.name rfl
    case integrations =>
      intro i hi
      exact hAll .integration (by decide) (.integration i)
        (List.mem_map_of_mem hi) i.name rfl
    case events =>
      intro e he
      exact hAll .event (by decide) (.event e)
        (List.mem_map_of_mem he) e.name rfl

variable {file source : String}
variable {spec : Spec}

/- Declarations are named one by one as their heads say. -/
theorem forall₂_names
    {k : Keyword}
    (h : Spec.parse file source = .ok spec)
    (hRule : k ≠ .rule) :
    List.Forall₂
      (fun b d => ∃ name, d.name? = some name ∧
        WritesName b.head.named name)
      ((documentBlocks source).filter (·.head.opens k))
      (spec.ofKind k) := by
  have hOpens :
      ∀ b ∈ (documentBlocks source).filter (·.head.opens k),
        b.head.opens k = true := by
    intro b hBlock
    exact (List.mem_filter.mp hBlock).2
  have hBoth := (List.forall₂_and_left _ _).mpr
    ⟨hOpens, forall₂_ofKind h k⟩
  apply hBoth.imp
  rintro b d ⟨hHead, hRead⟩
  exact Declaration.exists_writesName_of_ofBlock hRule hHead
    hRead

/-
  All declarations have names exactly when no head has only
  blanks in the quotes of its name.
-/
theorem allNamed_iff
    (h : Spec.parse file source = .ok spec) :
    spec.AllNamed ↔
      ∀ b ∈ documentBlocks source, ¬ b.head.IsNameless := by
  have hKind : ∀ k, k ≠ .rule →
      ((∀ b ∈ (documentBlocks source).filter
          (·.head.opens k),
        ¬ ∃ inner, b.head.named = inQuotes inner ∧
          trim inner = []) ↔
      ∀ d ∈ spec.ofKind k,
        ∀ name, d.name? = some name → IsName name) := by
    intro k hRule
    apply forall_mem_iff_of_forall₂ (forall₂_names h hRule)
    rintro b d ⟨name, hSome, hNames⟩
    rw [← hNames.blank_iff, hSome]
    simp [IsName]
  rw [allNamed_iff_ofKind]
  constructor
  · rintro hAll b hBlock ⟨k, hRule, hOpens, hBlank⟩
    have hFilter : b ∈ (documentBlocks source).filter
        (·.head.opens k) :=
      List.mem_filter.mpr ⟨hBlock, hOpens⟩
    exact (hKind k hRule).mpr (hAll k hRule) b hFilter hBlank
  · intro hNone k hRule
    rw [← hKind k hRule]
    intro b hFilter hBlank
    obtain ⟨hBlock, hOpens⟩ := List.mem_filter.mp hFilter
    exact hNone b hBlock ⟨k, hRule, hOpens, hBlank⟩

end Spec

end Blueprint

------------------------------------------------------------
-- Names in Checked Documents
------------------------------------------------------------

namespace Blueprint

open Text

/-
  What becomes of the names of a document. A head without
  anything behind its keyword is blamed. Otherwise every
  declaration has the name that is written in its head, and
  whatever the checks find, some name is blank exactly when
  there are only blanks in the quotes of a head.
-/
structure NamesKept (file source : String) : Prop where
  missing :
    ∀ b ∈ documentBlocks source, ∀ k, k ≠ .rule →
      b.head.opens k = true → b.head.named = [] →
        ∃ faults, check file source = .error faults ∧
          ∀ found,
            readHeader file (significantLines source) =
                .ok found →
              ⟨b.head.location file, .missingName k⟩ ∈ faults
  written :
    ∀ spec, Spec.parse file source = .ok spec →
      ∀ k, k ≠ .rule →
        List.Forall₂
          (fun b d => ∃ name, d.name? = some name ∧
            WritesName b.head.named name)
          ((documentBlocks source).filter (·.head.opens k))
          (spec.ofKind k)
  nameless :
    ∀ report, check file source = .ok report →
      ∃ spec, Spec.parse file source = .ok spec ∧
        report = spec.verify ∧
        (spec.AllNamed ↔
          ∀ b ∈ documentBlocks source, ¬ b.head.IsNameless)

/- The names of all documents are kept as written. -/
theorem namesKept (file source : String) :
    NamesKept file source where
  missing := by
    intro b hBlock k hRule hOpens hNamed
    obtain ⟨faults, hParse, hFault⟩ :=
      Spec.exists_faults_of_ofBlock hBlock
        (Declaration.ofBlock_of_named_eq_nil hRule hOpens
          hNamed)
    refine ⟨faults, ?_, hFault⟩
    rw [check, hParse]
    rfl
  written := fun _ h _ hRule => Spec.forall₂_names h hRule
  nameless := by
    intro report hReport
    obtain ⟨spec, hParse, hVerify⟩ :=
      Declaration.exists_of_map_eq_ok hReport
    exact ⟨spec, hParse, hVerify.symm,
      Spec.allNamed_iff hParse⟩

/- A document with nothing in the quotes of its names. -/
def blankNamesSource : String :=
  "app \"T\"\nentity \"\"\n  x: text\nscreen \" \"\n" ++
    "  kind: dashboard\n  widgets:\n    \"W\" (count)\n" ++
    "flow \"\"\n  1. go\nintegration \"\"\nevent \"\"\n" ++
    "  fields: [a]\n"

/- What it declares. -/
def blankNamesSpec : Spec where
  appName := "T"
  entities := [{
    name := ""
    fields := [⟨"x", .scalar .text, {}, ⟨"blank", 3⟩⟩]
    location := ⟨"blank", 2⟩ }]
  screens := [{
    name := " "
    kind := .dashboard
    entity := none
    fields := []
    filters := []
    actions := []
    primaryAction := none
    steps := []
    widgets := [⟨"W", .count, ⟨"blank", 7⟩⟩]
    location := ⟨"blank", 4⟩ }]
  flows := [{
    name := ""
    steps := [⟨1, "go", false, none, ⟨"blank", 9⟩⟩]
    location := ⟨"blank", 8⟩ }]
  rules := []
  integrations := [⟨"", none, none, ⟨"blank", 10⟩⟩]
  events := [⟨"", ["a"], ⟨"blank", 11⟩⟩]

/- It is read, and its check succeeds without a name. -/
theorem not_allNamed_blankNamesSpec :
    Spec.parse "blank" blankNamesSource =
        .ok blankNamesSpec ∧
      check "blank" blankNamesSource =
        .ok blankNamesSpec.verify ∧
      blankNamesSpec.verify.success = true ∧
      ¬ blankNamesSpec.AllNamed := by
  have hParse : Spec.parse "blank" blankNamesSource =
      .ok blankNamesSpec := by
    decide +kernel
  refine ⟨hParse, ?_, by decide +kernel, ?_⟩
  · rw [check, hParse]
    rfl
  · intro hAll
    exact hAll.entities _ List.mem_cons_self (by decide)

end Blueprint
