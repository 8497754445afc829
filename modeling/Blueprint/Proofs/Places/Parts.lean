import Blueprint.Spec

/-
  The places of a specification: where its declarations
  stand, and where their fields, steps and widgets stand.

  Main definitions:
    * `Entity.places`, `Screen.places`, `Flow.places`
    * `Spec.places`

  Main statements:
    * `Spec.entity_places`, `Spec.screen_places`,
      `Spec.flow_places`
    * `Spec.rule_place`, `Spec.integration_place`,
      `Spec.event_place`
-/

------------------------------------------------------------
-- Places of Declarations
------------------------------------------------------------

namespace Blueprint

/- The places of an entity and of its fields. -/
def Entity.places (e : Entity) : List Location :=
  e.location :: e.fields.map Field.location

/- The places of a screen, of its steps and of its widgets. -/
def Screen.places (s : Screen) : List Location :=
  s.location ::
    (s.steps.map WizardStep.location ++
      s.widgets.map Widget.location)

/- The places of a flow and of its steps. -/
def Flow.places (f : Flow) : List Location :=
  f.location :: f.steps.map FlowStep.location

/- The places of all declarations and of their parts. -/
def Spec.places (spec : Spec) : List Location :=
  spec.entities.flatMap Entity.places ++
    spec.screens.flatMap Screen.places ++
    spec.flows.flatMap Flow.places ++
    spec.rules.map Rule.location ++
    spec.integrations.map Integration.location ++
    spec.events.map Event.location

end Blueprint

------------------------------------------------------------
-- Places among All
------------------------------------------------------------

namespace Blueprint

theorem Entity.location_mem_places (e : Entity) :
    e.location ∈ e.places :=
  List.mem_cons_self

theorem Entity.field_mem_places
    {e : Entity}
    {f : Field}
    (hField : f ∈ e.fields) :
    f.location ∈ e.places :=
  List.mem_cons_of_mem _ (List.mem_map_of_mem hField)

theorem Screen.location_mem_places (s : Screen) :
    s.location ∈ s.places :=
  List.mem_cons_self

theorem Screen.step_mem_places
    {s : Screen}
    {step : WizardStep}
    (hStep : step ∈ s.steps) :
    step.location ∈ s.places := by
  apply List.mem_cons_of_mem
  exact List.mem_append_left _ (List.mem_map_of_mem hStep)

theorem Screen.widget_mem_places
    {s : Screen}
    {w : Widget}
    (hWidget : w ∈ s.widgets) :
    w.location ∈ s.places := by
  apply List.mem_cons_of_mem
  exact List.mem_append_right _ (List.mem_map_of_mem hWidget)

theorem Flow.location_mem_places (f : Flow) :
    f.location ∈ f.places :=
  List.mem_cons_self

theorem Flow.step_mem_places
    {f : Flow}
    {step : FlowStep}
    (hStep : step ∈ f.steps) :
    step.location ∈ f.places :=
  List.mem_cons_of_mem _ (List.mem_map_of_mem hStep)

namespace Spec

variable {spec : Spec}

/- What has a place has it as a part of some declaration. -/
theorem mem_places_iff {l : Location} :
    l ∈ spec.places ↔
      (∃ e ∈ spec.entities, l ∈ e.places) ∨
        (∃ s ∈ spec.screens, l ∈ s.places) ∨
        (∃ f ∈ spec.flows, l ∈ f.places) ∨
        (∃ r ∈ spec.rules, r.location = l) ∨
        (∃ i ∈ spec.integrations, i.location = l) ∨
        (∃ e ∈ spec.events, e.location = l) := by
  simp only [places, List.mem_append, List.mem_flatMap,
    List.mem_map, or_assoc]

theorem entity_places
    {e : Entity}
    (hEntity : e ∈ spec.entities) :
    e.places ⊆ spec.places :=
  fun _ hPlace => mem_places_iff.mpr (.inl ⟨e, hEntity, hPlace⟩)

theorem screen_places
    {s : Screen}
    (hScreen : s ∈ spec.screens) :
    s.places ⊆ spec.places :=
  fun _ hPlace =>
    mem_places_iff.mpr (.inr (.inl ⟨s, hScreen, hPlace⟩))

theorem flow_places
    {f : Flow}
    (hFlow : f ∈ spec.flows) :
    f.places ⊆ spec.places :=
  fun _ hPlace =>
    mem_places_iff.mpr (.inr (.inr (.inl ⟨f, hFlow, hPlace⟩)))

theorem rule_place
    {r : Rule}
    (hRule : r ∈ spec.rules) :
    r.location ∈ spec.places :=
  mem_places_iff.mpr
    (.inr (.inr (.inr (.inl ⟨r, hRule, rfl⟩))))

theorem integration_place
    {i : Integration}
    (hIntegration : i ∈ spec.integrations) :
    i.location ∈ spec.places :=
  mem_places_iff.mpr
    (.inr (.inr (.inr (.inr (.inl ⟨i, hIntegration, rfl⟩)))))

theorem event_place
    {e : Event}
    (hEvent : e ∈ spec.events) :
    e.location ∈ spec.places :=
  mem_places_iff.mpr
    (.inr (.inr (.inr (.inr (.inr ⟨e, hEvent, rfl⟩)))))

end Spec

end Blueprint
