import Blueprint.Proofs.Places.Parts
import Blueprint.Verify

/-
  Every check tells of a place of the specification: each
  issue stands where a declaration, a field, a step or a
  widget stands.

  Main definition:
    * `Placed`

  Main statements:
    * `placed_duplicateIssues`
    * `placed_structureIssues`
    * `placed_typingIssues`
    * `placed_conflictIssues`
    * `placed_boundaryIssues`
    * `placed_wiringIssues`
    * `placed_styleIssues`
    * `placed_issues`
-/

------------------------------------------------------------
-- Issues at Places
------------------------------------------------------------

namespace Blueprint

/- The issue stands at one of the places. -/
def Issue.PlacedAt
    (places : List Location)
    (i : Issue) : Prop :=
  ∃ l ∈ places, i.location = some l

/- All issues of a list stand at one of the places. -/
def Placed
    (places : List Location)
    (issues : List Issue) : Prop :=
  ∀ i ∈ issues, i.PlacedAt places

variable {α : Type}
variable {places : List Location}

/- The issue of a finding stands where it was put. -/
@[simp] theorem Issue.placedAt_of
    {finding : Finding}
    {location : Location} :
    (Issue.of finding location).PlacedAt places ↔
      location ∈ places := by
  simp [Issue.PlacedAt, Issue.of]

theorem Placed.mono
    {more : List Location}
    {issues : List Issue}
    (h : Placed places issues)
    (hMore : places ⊆ more) :
    Placed more issues := by
  intro i hMem
  rcases h i hMem with ⟨l, hPlace, hIssue⟩
  exact ⟨l, hMore hPlace, hIssue⟩

@[simp] theorem placed_nil : Placed places [] := by
  simp [Placed]

@[simp] theorem placed_singleton_iff
    {i : Issue} :
    Placed places [i] ↔ i.PlacedAt places :=
  List.forall_mem_singleton

@[simp] theorem placed_append_iff
    {first second : List Issue} :
    Placed places (first ++ second) ↔
      Placed places first ∧ Placed places second :=
  List.forall_mem_append

@[simp] theorem placed_flatMap_iff
    {xs : List α}
    {f : α → List Issue} :
    Placed places (xs.flatMap f) ↔
      ∀ x ∈ xs, Placed places (f x) :=
  List.forall_mem_flatMap

@[simp] theorem placed_map_iff
    {xs : List α}
    {f : α → Issue} :
    Placed places (xs.map f) ↔
      ∀ x ∈ xs, (f x).PlacedAt places :=
  List.forall_mem_map

@[simp] theorem placed_filterMap_iff
    {xs : List α}
    {f : α → Option Issue} :
    Placed places (xs.filterMap f) ↔
      ∀ x ∈ xs, ∀ i, f x = some i → i.PlacedAt places :=
  List.forall_mem_filterMap

/- Findings that are all put at one place stand there. -/
theorem placed_map_of
    {location : Location}
    (findings : List Finding)
    (hPlace : location ∈ places) :
    Placed places (findings.map (.of · location)) := by
  rw [placed_map_iff]
  intro finding _
  exact Issue.placedAt_of.mpr hPlace

end Blueprint

------------------------------------------------------------
-- First Declarations
------------------------------------------------------------

namespace Blueprint

variable {α : Type}

/- An item that is paired is an item of the list. -/
theorem mem_of_mem_withFirst
    {name : α → String}
    {items : List α}
    {p : α × Option α}
    (h : p ∈ withFirst name items) :
    p.1 ∈ items := by
  rw [← map_fst_withFirst name items]
  exact List.mem_map_of_mem h

/- The first items of all names stand in their order. -/
theorem firsts_sublist
    (name : α → String)
    (items : List α) :
    (firsts name items).Sublist items := by
  have hFirsts : firsts name items =
      ((withFirst name items).filter
        fun p => p.2.isNone).map Prod.fst := by
    rw [← List.filterMap_eq_map, List.filterMap_filter]
    rfl
  have hSublist : ((withFirst name items).filter
      fun p => p.2.isNone).Sublist (withFirst name items) :=
    List.filter_sublist
  have hItems := hSublist.map Prod.fst
  rwa [← hFirsts, map_fst_withFirst] at hItems

/- The first items of all names are items of the list. -/
theorem firsts_subset
    (name : α → String)
    (items : List α) :
    firsts name items ⊆ items :=
  (firsts_sublist name items).subset

end Blueprint

------------------------------------------------------------
-- Names Declared Twice
------------------------------------------------------------

namespace Blueprint

variable {spec : Spec}
variable {places : List Location}

/- A repeated name is told where it is repeated. -/
theorem placed_repeatIssues
    {α : Type}
    (name : α → String)
    {location : α → Location}
    (matter : String → Nat → Matter)
    {declarations : List α}
    (hPlaces : ∀ d ∈ declarations, location d ∈ places) :
    Placed places
      (repeatIssues name location matter declarations) := by
  unfold repeatIssues
  rw [placed_flatMap_iff]
  rintro ⟨d, first⟩ hPair
  cases first with
  | none => exact placed_nil
  | some f =>
      rw [placed_singleton_iff, Issue.placedAt_of]
      exact hPlaces d (mem_of_mem_withFirst hPair)

theorem placed_duplicateEntityIssues :
    Placed spec.places
      (duplicateEntityIssues spec.entities) := by
  unfold duplicateEntityIssues
  rw [placed_flatMap_iff]
  rintro ⟨e, first⟩ hPair
  have hEntity := Spec.entity_places (mem_of_mem_withFirst hPair)
  rw [placed_append_iff]
  constructor
  · apply placed_repeatIssues
    intro f hField
    exact hEntity (Entity.field_mem_places hField)
  · cases first with
    | none => exact placed_nil
    | some f =>
        rw [placed_singleton_iff, Issue.placedAt_of]
        exact hEntity e.location_mem_places

theorem placed_duplicateIssues (spec : Spec) :
    Placed spec.places (duplicateIssues spec) := by
  unfold duplicateIssues
  rw [placed_append_iff, placed_append_iff]
  refine ⟨⟨placed_duplicateEntityIssues, ?_⟩, ?_⟩
  · apply placed_repeatIssues
    intro s hScreen
    exact Spec.screen_places hScreen s.location_mem_places
  · apply placed_repeatIssues
    intro f hFlow
    exact Spec.flow_places hFlow f.location_mem_places

end Blueprint

------------------------------------------------------------
-- Structure
------------------------------------------------------------

namespace Blueprint

theorem placed_entityIssues
    (table : SymbolTable)
    (e : Entity) :
    Placed e.places (entityIssues table e) := by
  unfold entityIssues
  rw [placed_append_iff, placed_flatMap_iff]
  constructor
  · split
    · simpa using e.location_mem_places
    · exact placed_nil
  · intro f hField
    exact placed_map_of _ (Entity.field_mem_places hField)

/- A field that a screen uses is used at one of its places. -/
theorem mem_places_of_mem_usedFields
    {s : Screen}
    {field : String}
    {location : Location}
    (h : (field, location) ∈ usedFields s) :
    location ∈ s.places := by
  unfold usedFields at h
  rcases List.mem_append.mp h with hScreen | hStep
  · rcases List.mem_map.mp hScreen with ⟨_, _, hSame⟩
    cases hSame
    exact s.location_mem_places
  · rcases List.mem_flatMap.mp hStep with ⟨step, hMem, hUsed⟩
    rcases List.mem_map.mp hUsed with ⟨_, _, hSame⟩
    cases hSame
    exact Screen.step_mem_places hMem

theorem placed_bindingIssues
    (table : SymbolTable)
    (s : Screen) :
    Placed s.places (bindingIssues table s) := by
  unfold bindingIssues
  split
  · exact placed_nil
  · split
    · rw [placed_filterMap_iff]
      rintro ⟨field, location⟩ hUsed i hIssue
      rcases Option.ite_none_left_eq_some.mp hIssue with
        ⟨_, hSome⟩
      cases hSome
      rw [Issue.placedAt_of]
      exact mem_places_of_mem_usedFields hUsed
    · simpa using s.location_mem_places

theorem placed_screenIssues
    (table : SymbolTable)
    (s : Screen) :
    Placed s.places (screenIssues table s) := by
  unfold screenIssues
  rw [placed_append_iff, placed_append_iff,
    placed_append_iff, placed_filterMap_iff]
  refine ⟨⟨⟨?kind, placed_bindingIssues table s⟩,
    ?content⟩, ?widgets⟩
  case kind => exact placed_map_of _ s.location_mem_places
  case content => exact placed_map_of _ s.location_mem_places
  case widgets =>
      intro w hWidget i hIssue
      unfold widgetIssue? at hIssue
      split at hIssue
      · cases hIssue
        rw [Issue.placedAt_of]
        exact Screen.widget_mem_places hWidget
      · cases hIssue

/- A step that has the wrong number is one of the steps. -/
theorem mem_of_firstMisnumbered?
    {expected : Nat}
    {steps : List FlowStep}
    {p : FlowStep × Nat}
    (h : firstMisnumbered? expected steps = some p) :
    p.1 ∈ steps := by
  induction steps generalizing expected with
  | nil => cases h
  | cons step steps ih =>
      unfold firstMisnumbered? at h
      split at h
      · exact List.mem_cons_of_mem _ (ih h)
      · cases h
        exact List.mem_cons_self

theorem placed_flowIssues
    (hasAi : Bool)
    (f : Flow) :
    Placed f.places (flowIssues hasAi f) := by
  unfold flowIssues
  split
  · simpa using f.location_mem_places
  · rw [placed_append_iff, placed_append_iff, placed_map_iff]
    refine ⟨⟨?sequence, ?empty⟩, ?unserved⟩
    case sequence =>
        intro i hMem
        rcases Option.map_eq_some_iff.mp
          (Option.mem_toList.mp hMem) with ⟨p, hStep, rfl⟩
        rw [Issue.placedAt_of]
        exact Flow.step_mem_places
          (mem_of_firstMisnumbered? hStep)
    case empty =>
        intro step hMem
        rw [Issue.placedAt_of]
        exact Flow.step_mem_places (List.mem_filter.mp hMem).1
    case unserved =>
        intro i hMem
        have hIssue := Option.mem_toList.mp hMem
        unfold unservedIssue? at hIssue
        rcases Option.ite_none_left_eq_some.mp hIssue with
          ⟨_, hSome⟩
        rcases Option.map_eq_some_iff.mp hSome with
          ⟨step, hStep, rfl⟩
        rw [Issue.placedAt_of]
        exact Flow.step_mem_places
          (List.mem_of_find?_eq_some hStep)

theorem placed_integrationIssues (spec : Spec) :
    Placed spec.places
      (integrationIssues spec.integrations) := by
  unfold integrationIssues
  rw [placed_flatMap_iff]
  rintro ⟨i, first⟩ hPair
  exact placed_map_of _
    (Spec.integration_place (mem_of_mem_withFirst hPair))

theorem placed_eventIssues (spec : Spec) :
    Placed spec.places (eventIssues spec.events) := by
  unfold eventIssues
  rw [placed_flatMap_iff]
  rintro ⟨e, first⟩ hPair
  exact placed_map_of _
    (Spec.event_place (mem_of_mem_withFirst hPair))

theorem placed_structureIssues
    (spec : Spec)
    (table : SymbolTable) :
    Placed spec.places (structureIssues spec table) := by
  unfold structureIssues
  simp only [placed_append_iff, placed_flatMap_iff]
  refine ⟨⟨⟨⟨⟨?entities, ?screens⟩, ?flows⟩, ?rules⟩,
    placed_integrationIssues spec⟩, placed_eventIssues spec⟩
  case entities =>
      intro e hEntity
      exact (placed_entityIssues table e).mono
        (Spec.entity_places hEntity)
  case screens =>
      intro s hScreen
      exact (placed_screenIssues table s).mono
        (Spec.screen_places hScreen)
  case flows =>
      intro f hFlow
      exact (placed_flowIssues _ f).mono
        (Spec.flow_places hFlow)
  case rules =>
      intro r hRule
      exact placed_map_of _ (Spec.rule_place hRule)

end Blueprint

------------------------------------------------------------
-- Typing and Conflicts
------------------------------------------------------------

namespace Blueprint

theorem placed_formIssues
    (env : TypeEnv)
    (s : Screen) :
    Placed s.places (formIssues env s) := by
  unfold formIssues
  split
  · split
    · exact placed_nil
    · rw [placed_filterMap_iff]
      intro field _ i hIssue
      rcases Option.map_eq_some_iff.mp hIssue with ⟨_, _, rfl⟩
      rw [Issue.placedAt_of]
      exact s.location_mem_places
  · exact placed_nil

theorem placed_typingIssues
    (spec : Spec)
    (env : TypeEnv) :
    Placed spec.places (typingIssues spec env) := by
  unfold typingIssues
  rw [placed_append_iff, placed_flatMap_iff,
    placed_filterMap_iff]
  constructor
  · intro s hScreen
    exact (placed_formIssues env s).mono
      (Spec.screen_places hScreen)
  · intro r hRule i hIssue
    unfold inputIssue? at hIssue
    split at hIssue
    · cases hIssue
    · split at hIssue
      · rcases Option.map_eq_some_iff.mp hIssue with
          ⟨_, _, rfl⟩
        rw [Issue.placedAt_of]
        exact Spec.rule_place hRule
      · cases hIssue

/- Two rules that conflict are told at the later of them. -/
theorem placedAt_of_pairIssue?
    {rules : List Rule}
    {a b : Constraint}
    {i : Issue}
    (h : pairIssue? rules a b = some i) :
    i.PlacedAt (rules.map Rule.location) := by
  unfold pairIssue? at h
  rcases Option.ite_none_left_eq_some.mp h with ⟨_, hPair⟩
  split at hPair
  · rename_i r s hFirst hSecond
    rcases Option.map_eq_some_iff.mp hPair with ⟨_, _, rfl⟩
    rw [Issue.placedAt_of]
    apply List.mem_map_of_mem
    split
    · exact List.mem_of_getElem? hSecond
    · exact List.mem_of_getElem? hFirst
  · cases hPair

/- All pairs of constraints are compared one by one. -/
theorem placed_pairIssues
    (rules : List Rule)
    (cs : List Constraint) :
    Placed (rules.map Rule.location) (pairIssues rules cs) := by
  induction cs with
  | nil => exact placed_nil
  | cons a rest ih =>
      unfold pairIssues
      rw [placed_append_iff, placed_filterMap_iff]
      refine ⟨?_, ih⟩
      intro b _ i hIssue
      exact placedAt_of_pairIssue? hIssue

theorem placed_overloadIssues
    (rules : List Rule)
    (cs : List Constraint) :
    Placed (rules.map Rule.location)
      (overloadIssues rules cs) := by
  unfold overloadIssues
  rw [placed_filterMap_iff]
  intro target _ i hIssue
  rcases Option.ite_none_right_eq_some.mp hIssue with
    ⟨_, hGroup⟩
  rcases Option.bind_eq_some_iff.mp hGroup with
    ⟨p, _, hRule⟩
  rcases Option.map_eq_some_iff.mp hRule with
    ⟨r, hAt, rfl⟩
  rw [Issue.placedAt_of]
  exact List.mem_map_of_mem (List.mem_of_getElem? hAt)

theorem placed_conflictIssues
    (spec : Spec)
    (env : TypeEnv) :
    Placed spec.places (conflictIssues spec env) := by
  have hRules :
      spec.rules.map Rule.location ⊆ spec.places := by
    intro l hPlace
    rcases List.mem_map.mp hPlace with ⟨r, hRule, rfl⟩
    exact Spec.rule_place hRule
  unfold conflictIssues
  rw [placed_append_iff]
  exact ⟨(placed_pairIssues _ _).mono hRules,
    (placed_overloadIssues _ _).mono hRules⟩

end Blueprint

------------------------------------------------------------
-- Boundaries, Wiring and Style
------------------------------------------------------------

namespace Blueprint

theorem placed_boundaryIssues (spec : Spec) :
    Placed spec.places (boundaryIssues spec) := by
  unfold boundaryIssues
  rw [placed_flatMap_iff]
  intro e hEntity
  rw [placed_filterMap_iff]
  intro f hField i hIssue
  rcases Option.map_eq_some_iff.mp hIssue with ⟨_, _, rfl⟩
  rw [Issue.placedAt_of]
  exact Spec.entity_places hEntity
    (Entity.field_mem_places hField)

theorem placed_requiredIssues
    (spec : Spec)
    (s : Screen) :
    Placed s.places (requiredIssues spec s) := by
  unfold requiredIssues
  rw [placed_filterMap_iff]
  rintro ⟨e, f⟩ _ i hIssue
  rcases Option.ite_none_left_eq_some.mp hIssue with
    ⟨_, hSome⟩
  cases hSome
  rw [Issue.placedAt_of]
  exact s.location_mem_places

/- The first fields of all pairs are among the fields. -/
theorem firstOfPairs_subset
    (seen : List (String × String))
    (rs : List Reach) :
    Reach.firstOfPairs seen rs ⊆ rs := by
  induction rs generalizing seen with
  | nil => exact List.Subset.refl _
  | cons r rs ih =>
      unfold Reach.firstOfPairs
      split
      · exact List.subset_cons_of_subset _ (ih _)
      · exact List.cons_subset_cons _ (ih _)

/- A field that refers to another entity stands there. -/
theorem location_mem_places_of_mem_ofEntity
    {e : Entity}
    {r : Reach}
    (h : r ∈ Reach.ofEntity e) :
    r.location ∈ e.places := by
  rcases List.mem_filterMap.mp h with ⟨f, hField, hReach⟩
  split at hReach
  · cases hReach
  · rcases Option.ite_none_left_eq_some.mp hReach with
      ⟨_, hSome⟩
    cases hSome
    exact Entity.field_mem_places hField

theorem placed_circularIssues (spec : Spec) :
    Placed spec.places (circularIssues spec) := by
  unfold circularIssues
  rw [placed_map_iff]
  intro r hFirst
  rw [Issue.placedAt_of]
  have hReturned := firstOfPairs_subset _ _ hFirst
  rcases List.mem_flatMap.mp (List.mem_filter.mp hReturned).1
    with ⟨e, hUnique, hReach⟩
  apply Spec.entity_places (firsts_subset _ _ hUnique)
  exact location_mem_places_of_mem_ofEntity hReach

theorem placed_wiringIssues (spec : Spec) :
    Placed spec.places (wiringIssues spec) := by
  unfold wiringIssues
  rw [placed_append_iff, placed_append_iff,
    placed_flatMap_iff]
  refine ⟨⟨?unreferenced, ?required⟩,
    placed_circularIssues spec⟩
  case unreferenced =>
      unfold unreferencedIssues
      rw [placed_filterMap_iff]
      intro e hUnique i hIssue
      rcases Option.ite_none_left_eq_some.mp hIssue with
        ⟨_, hSome⟩
      cases hSome
      rw [Issue.placedAt_of]
      exact Spec.entity_places (firsts_subset _ _ hUnique)
        e.location_mem_places
  case required =>
      intro s hScreen
      exact (placed_requiredIssues spec s).mono
        (Spec.screen_places hScreen)

theorem placed_styleIssues (spec : Spec) :
    Placed spec.places (styleIssues spec) := by
  unfold styleIssues entityStyleIssues
  simp only [placed_append_iff, placed_flatMap_iff]
  refine ⟨⟨⟨?entities, ?screens⟩, ?flows⟩, ?rules⟩
  case entities =>
      intro e hEntity
      have hPlaces := Spec.entity_places hEntity
      constructor
      · exact placed_map_of _ (hPlaces e.location_mem_places)
      · intro f hField
        exact placed_map_of _
          (hPlaces (Entity.field_mem_places hField))
  case screens =>
      intro s hScreen
      exact placed_map_of _
        (Spec.screen_places hScreen s.location_mem_places)
  case flows =>
      intro f hFlow
      exact placed_map_of _
        (Spec.flow_places hFlow f.location_mem_places)
  case rules =>
      intro r hRule
      exact placed_map_of _ (Spec.rule_place hRule)

end Blueprint

------------------------------------------------------------
-- All Checks
------------------------------------------------------------

namespace Blueprint

/- Every issue stands at a place of the specification. -/
theorem placed_issues (spec : Spec) :
    Placed spec.places spec.issues := by
  unfold Spec.issues
  simp only [placed_append_iff]
  exact ⟨⟨⟨⟨⟨⟨placed_duplicateIssues spec,
    placed_structureIssues spec _⟩,
    placed_typingIssues spec _⟩,
    placed_conflictIssues spec _⟩,
    placed_boundaryIssues spec⟩,
    placed_wiringIssues spec⟩,
    placed_styleIssues spec⟩

end Blueprint
