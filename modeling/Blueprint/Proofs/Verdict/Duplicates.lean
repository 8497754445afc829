import Blueprint.Proofs.FirstDeclaration
import Blueprint.Proofs.Issue.Selection
import Blueprint.Proofs.OnePerCase
import Blueprint.Verify

/-
  Names that are declared again are reported: every repeated
  declaration has an error of its own, at its own place and
  with the line of the first declaration of the name.

  Main definitions:
    * `IsRepeat`
    * `TellsRepeat`
    * `ReportsRepeats`
    * `ReportsDuplicates`

  Main statements:
    * `getElem?_withFirst`
    * `onePerCase_repeats`
    * `reportsDuplicates_verify`
-/

------------------------------------------------------------
-- Repeated Names
------------------------------------------------------------

namespace Blueprint

variable {α : Type}

/- The item at a place has the name of an earlier one. -/
def IsRepeat
    (name : α → String)
    (items : List α)
    (k : Nat) : Prop :=
  ∃ item, items[k]? = some item ∧
    ∃ earlier ∈ items.take k, name earlier = name item

/-
  The issue is the report on the item at a place, made with
  the first item of the same name.
-/
def TellsRepeat
    (name : α → String)
    (report : α → α → Issue)
    (items : List α)
    (k : Nat)
    (i : Issue) : Prop :=
  ∃ item first, items[k]? = some item ∧
    FirstNamed name items (name item) first ∧
      i = report item first

/- A search by name finds the same in two lists. -/
def FindsAlike
    (name : α → String)
    (seen before : List α) : Prop :=
  ∀ n, seen.find? (fun other => name other == n) =
    before.find? (fun other => name other == n)

section Seen

variable {name : α → String}
variable {seen before : List α}
variable {item : α}

/- A repeated item is never found behind the first one. -/
theorem FindsAlike.of_seen
    {first : α}
    (h : FindsAlike name seen before)
    (hFind : seen.find?
      (fun other => name other == name item) = some first) :
    FindsAlike name seen (before ++ [item]) := by
  intro n
  rw [List.find?_append, ← h n]
  by_cases hName : name item = n
  · rw [← hName, hFind, Option.some_or]
  · simp [hName]

/- A new item is found wherever it is added. -/
theorem FindsAlike.of_new
    (h : FindsAlike name seen before)
    (hFind : seen.find?
      (fun other => name other == name item) = none) :
    FindsAlike name (item :: seen) (before ++ [item]) := by
  intro n
  rw [List.find?_append, ← h n]
  by_cases hName : name item = n
  · rw [← hName, hFind]
    simp
  · simp [hName]

/-
  Every item is paired with what a search among the items
  before it finds. The induction carries the items `before`
  the list, among which the same is found as among those
  that count as seen.
-/
theorem getElem?_withFirstAfter
    (h : FindsAlike name seen before)
    (items : List α)
    (k : Nat) :
    (withFirstAfter name seen items)[k]? =
      items[k]?.map fun item =>
        (item, (before ++ items.take k).find?
          fun other => name other == name item) := by
  induction items generalizing seen before k with
  | nil => simp [withFirstAfter]
  | cons item items ih =>
      unfold withFirstAfter
      cases hFind : seen.find?
          fun first => name first == name item with
      | some first =>
          cases k with
          | zero => simp [← h (name item), hFind]
          | succ k => simp [ih (h.of_seen hFind)]
      | none =>
          cases k with
          | zero => simp [← h (name item), hFind]
          | succ k => simp [ih (h.of_new hFind)]

end Seen

/- Every item is paired with the first namesake before it. -/
theorem getElem?_withFirst
    (name : α → String)
    (items : List α)
    (k : Nat) :
    (withFirst name items)[k]? =
      items[k]?.map fun item =>
        (item, (items.take k).find?
          fun other => name other == name item) :=
  getElem?_withFirstAfter (fun _ => rfl) items k

/- The first of a name before a place is the first of all. -/
theorem firstNamed_of_find?_take
    {name : α → String}
    {items : List α}
    {k : Nat}
    {n : String}
    {first : α}
    (hFind : (items.take k).find?
      (fun other => name other == n) = some first) :
    FirstNamed name items n first := by
  rw [← find?_name_eq_some_iff]
  conv_lhs => rw [← List.take_append_drop k items]
  rw [List.find?_append, hFind, Option.some_or]

/- The reports on pairs are one for each repeated name. -/
theorem onePerCase_repeats
    (name : α → String)
    (report : α → α → Issue)
    (items : List α) :
    OnePerCase (IsRepeat name items)
      (TellsRepeat name report items)
      ((withFirst name items).filterMap fun p =>
        p.2.map (report p.1)) := by
  apply (onePerCase_filterMap _ _).mono
  case hCase =>
      intro k
      simp only [getElem?_withFirst, Option.map_eq_some_iff]
      constructor
      · rintro ⟨_, i, ⟨item, hItem, rfl⟩, first, hFirst, _⟩
        refine ⟨item, hItem, ?_⟩
        rw [← isSome_find?_name_iff]
        exact Option.isSome_of_eq_some hFirst
      · rintro ⟨item, hItem, hEarlier⟩
        rw [← isSome_find?_name_iff,
          Option.isSome_iff_exists] at hEarlier
        rcases hEarlier with ⟨first, hFirst⟩
        exact ⟨_, _, ⟨item, hItem, rfl⟩, first, hFirst, rfl⟩
  case hTells =>
      intro k i hTells
      simp only [getElem?_withFirst,
        Option.map_eq_some_iff] at hTells
      rcases hTells with
        ⟨_, ⟨item, hItem, rfl⟩, first, hFirst, rfl⟩
      exact ⟨item, first, hItem,
        firstNamed_of_find?_take hFirst, rfl⟩

end Blueprint

------------------------------------------------------------
-- Reports on Repeated Names
------------------------------------------------------------

namespace Blueprint

variable {α : Type}

/-
  The report on a repeated declaration stands at its place,
  with its name and the line of the first of the name.
-/
def repeatReport
    (name : α → String)
    (location : α → Location)
    (matter : String → Nat → Matter)
    (declared first : α) : Issue :=
  .of (.error (matter (name declared) (location first).line))
    (location declared)

/- The issues are one for each repeated declaration. -/
def ReportsRepeats
    (name : α → String)
    (location : α → Location)
    (matter : String → Nat → Matter)
    (declarations : List α)
    (issues : List Issue) : Prop :=
  OnePerCase (IsRepeat name declarations)
    (TellsRepeat name (repeatReport name location matter)
      declarations)
    issues

section Kind

variable {codes : List Code}
variable {name : α → String}
variable {location : α → Location}
variable {matter : String → Nat → Matter}

/-
  Of the issues of every pair with a first occurrence, those
  of the codes are the report on a repeated declaration.
-/
theorem reportsRepeats_flatMap
    {issuesOf : α × Option α → List Issue}
    (hPair : ∀ d first, withCodes codes (issuesOf (d, first)) =
      (first.map (repeatReport name location matter d)).toList)
    (declarations : List α) :
    ReportsRepeats name location matter declarations
      (withCodes codes
        ((withFirst name declarations).flatMap issuesOf)) := by
  have hPairs : withCodes codes
      ((withFirst name declarations).flatMap issuesOf) =
        (withFirst name declarations).filterMap fun p =>
          p.2.map (repeatReport name location matter p.1) :=
    withCodes_flatMap_eq_filterMap fun p => hPair p.1 p.2
  rw [hPairs]
  exact onePerCase_repeats name _ declarations

/- Repeated names where nothing else is reported. -/
theorem reportsRepeats_repeatIssues
    (hCode : ∀ n line, (matter n line).code ∈ codes)
    (declarations : List α) :
    ReportsRepeats name location matter declarations
      (withCodes codes
        (repeatIssues name location matter
          declarations)) := by
  apply reportsRepeats_flatMap
  intro d first
  cases first with
  | none => rfl
  | some f => simp [hCode, repeatReport]

/- Repeated names are not reported with other codes. -/
theorem withCodes_repeatIssues_eq_nil
    (hCode : ∀ n line, (matter n line).code ∉ codes)
    (declarations : List α) :
    withCodes codes
      (repeatIssues name location matter declarations) =
        [] := by
  unfold repeatIssues
  rw [withCodes_flatMap, List.flatMap_eq_nil_iff]
  rintro ⟨d, first⟩ _
  cases first with
  | none => rfl
  | some f => simp [hCode]

end Kind

/- Repeated entities, besides the issues of their fields. -/
theorem reportsRepeats_entities (entities : List Entity) :
    ReportsRepeats Entity.name Entity.location
      .duplicateEntity entities
      (withCodes [.duplicateEntity]
        (duplicateEntityIssues entities)) := by
  apply reportsRepeats_flatMap
  intro e first
  have hFields : withCodes [.duplicateEntity]
      (duplicateFieldIssues e) = [] := by
    apply withCodes_repeatIssues_eq_nil
    simp [Matter.code]
  rw [withCodes_append, hFields]
  cases first with
  | none => rfl
  | some f => simp [Matter.code, repeatReport]

/-
  Without the errors about entities, what is left are the
  errors about the fields of all declarations. Whether an
  entity was declared before makes no difference to them.
-/
theorem withCodes_duplicateEntityIssues
    {codes : List Code}
    (hOther : .duplicateEntity ∉ codes)
    (entities : List Entity) :
    withCodes codes (duplicateEntityIssues entities) =
      entities.flatMap fun e =>
        withCodes codes (duplicateFieldIssues e) := by
  conv_rhs => rw [← map_fst_withFirst Entity.name entities]
  unfold duplicateEntityIssues
  rw [withCodes_flatMap, List.flatMap_map]
  apply List.flatMap_congr
  rintro ⟨e, first⟩ _
  rw [withCodes_append]
  cases first with
  | none => exact List.append_nil _
  | some f => simp [Matter.code, hOther]

/- Entities have no errors about names of other kinds. -/
theorem withCodes_duplicateEntityIssues_eq_nil
    {codes : List Code}
    (hEntity : .duplicateEntity ∉ codes)
    (hField : .duplicateField ∉ codes)
    (entities : List Entity) :
    withCodes codes (duplicateEntityIssues entities) = [] := by
  rw [withCodes_duplicateEntityIssues hEntity,
    List.flatMap_eq_nil_iff]
  intro e _
  exact withCodes_repeatIssues_eq_nil (fun _ _ => hField) _

/- Repeated integrations, besides malformed endpoints. -/
theorem reportsRepeats_integrations
    (integrations : List Integration) :
    ReportsRepeats Integration.name Integration.location
      .integrationDuplicate integrations
      (withCodes [.integrationDuplicate]
        (integrationIssues integrations)) := by
  apply reportsRepeats_flatMap
  intro d first
  have hEndpoint : withCodes [.integrationDuplicate]
      ((endpointFinding? d).toList.map (.of · d.location)) =
        [] := by
    unfold endpointFinding?
    split
    · rfl
    · split
      · rfl
      · simp [Matter.code]
  dsimp only
  rw [List.map_append, withCodes_append, hEndpoint]
  cases first with
  | none => rfl
  | some f => simp [Matter.code, repeatReport]

/- Repeated events, besides events without fields. -/
theorem reportsRepeats_events (events : List Event) :
    ReportsRepeats Event.name Event.location
      .eventDuplicate events
      (withCodes [.eventDuplicate] (eventIssues events)) := by
  apply reportsRepeats_flatMap
  intro d first
  have hFields : withCodes [.eventDuplicate]
      ((if d.fields.isEmpty then
          [Finding.warning (.eventNoFields d.name)]
        else []).map (.of · d.location)) = [] := by
    split
    · simp [Matter.code]
    · rfl
  dsimp only
  rw [List.map_append, withCodes_append, hFields]
  cases first with
  | none => rfl
  | some f => simp [Matter.code, repeatReport]

end Blueprint

------------------------------------------------------------
-- Verdict on Repeated Names
------------------------------------------------------------

namespace Blueprint

/- The codes of names declared twice, wherever they stand. -/
def Code.repeats : List Code :=
  .integrationDuplicate :: .eventDuplicate :: Code.duplicates

/-
  What the issues of a specification say about repeated
  names. The errors of each kind are one for each repeated
  declaration, and those about fields one for each repeated
  field in each declaration of an entity.
-/
structure ReportsDuplicates
    (spec : Spec)
    (issues : List Issue) : Prop where
  entities :
    ReportsRepeats Entity.name Entity.location
      .duplicateEntity spec.entities
      (withCodes [.duplicateEntity] issues)
  fields :
    OnePerCase
      (fun c : Nat × Nat =>
        ∃ e, spec.entities[c.1]? = some e ∧
          IsRepeat Field.name e.fields c.2)
      (fun c i => ∃ e, spec.entities[c.1]? = some e ∧
        TellsRepeat Field.name
          (repeatReport Field.name Field.location
            fun f line => .duplicateField f e.name line)
          e.fields c.2 i)
      (withCodes [.duplicateField] issues)
  screens :
    ReportsRepeats Screen.name Screen.location
      .duplicateScreen spec.screens
      (withCodes [.duplicateScreen] issues)
  flows :
    ReportsRepeats Flow.name Flow.location
      .duplicateFlow spec.flows
      (withCodes [.duplicateFlow] issues)
  integrations :
    ReportsRepeats Integration.name Integration.location
      .integrationDuplicate spec.integrations
      (withCodes [.integrationDuplicate] issues)
  events :
    ReportsRepeats Event.name Event.location
      .eventDuplicate spec.events
      (withCodes [.eventDuplicate] issues)
  errors :
    ∀ i ∈ withCodes Code.repeats issues, i.severity = .error

/-
  The issues with a code of repeated names are those about
  entities and fields, about screens, and about flows.
-/
theorem withCodes_issues_of_duplicate
    {code : Code}
    (hCode : code ∈ Code.duplicates)
    (spec : Spec) :
    withCodes [code] spec.verify.issues =
      withCodes [code] (duplicateEntityIssues spec.entities) ++
      withCodes [code] (repeatIssues Screen.name
        Screen.location .duplicateScreen spec.screens) ++
      withCodes [code] (repeatIssues Flow.name
        Flow.location .duplicateFlow spec.flows) := by
  have hCheck : (Code.duplicates, duplicateIssues spec) ∈
      spec.checks :=
    List.mem_cons_self
  have hOwn : [code] ⊆ Code.duplicates := by
    simpa using hCode
  rw [← withCodes_append, ← withCodes_append]
  exact withCodes_issues hCheck hOwn

end Blueprint
