import Blueprint.Proofs.Reading.Relaid

/-
  Of indents, only the order matters: lines with other
  indents, each as deep as before in comparison with the
  others, are read to the same specification or to the same
  faults.

  Main definition:
    * `Line.reindented`

  Main statements:
    * `Spec.moved_id`, `movedOutcome_id`
    * `ofLines_reindented`
-/

------------------------------------------------------------
-- Nothing Moved
------------------------------------------------------------

namespace Blueprint

/- Where every line keeps its number, no place moves. -/
theorem Location.moved_id (place : Location) :
    place.moved id = place :=
  rfl

theorem Fault.moved_id : Fault.moved id = id :=
  rfl

theorem Field.moved_id : Field.moved id = id :=
  rfl

theorem WizardStep.moved_id : WizardStep.moved id = id :=
  rfl

theorem Widget.moved_id : Widget.moved id = id :=
  rfl

theorem FlowStep.moved_id : FlowStep.moved id = id :=
  rfl

theorem Entity.moved_id : Entity.moved id = id := by
  funext e
  unfold Entity.moved
  rw [Field.moved_id, List.map_id, Location.moved_id]
  rfl

theorem Screen.moved_id : Screen.moved id = id := by
  funext s
  unfold Screen.moved
  rw [WizardStep.moved_id, Widget.moved_id, List.map_id,
    List.map_id, Location.moved_id]
  rfl

theorem Flow.moved_id : Flow.moved id = id := by
  funext f
  unfold Flow.moved
  rw [FlowStep.moved_id, List.map_id, Location.moved_id]
  rfl

theorem Rule.moved_id : Rule.moved id = id :=
  rfl

theorem Integration.moved_id : Integration.moved id = id :=
  rfl

theorem Event.moved_id : Event.moved id = id :=
  rfl

/- Then nothing in a specification moves. -/
theorem Spec.moved_id (spec : Spec) : spec.moved id = spec := by
  unfold Spec.moved
  rw [Entity.moved_id, Screen.moved_id, Flow.moved_id,
    Rule.moved_id, Integration.moved_id, Event.moved_id,
    List.map_id, List.map_id, List.map_id, List.map_id,
    List.map_id, List.map_id]

/- Nor does anything that reading a document gives. -/
theorem movedOutcome_id
    (outcome : Except (List Fault) Spec) :
    movedOutcome id (Spec.moved id) outcome = outcome := by
  cases outcome with
  | error faults =>
      rw [movedOutcome, Fault.moved_id, List.map_id]
  | ok spec => rw [movedOutcome, Spec.moved_id]

end Blueprint

------------------------------------------------------------
-- Other Indents
------------------------------------------------------------

namespace Blueprint

/- A line with another indent for the one that it has. -/
def Line.reindented
    (indent : Nat → Nat)
    (line : Line) : Line :=
  { line with indent := indent line.indent }

/- The layout that only gives lines new indents. -/
def Layout.reindenting
    {indent : Nat → Nat}
    (hMono : StrictMono indent)
    (hZero : indent 0 = 0) : Layout where
  number := id
  indent := indent
  indent_strictMono := hMono
  indent_zero := hZero

/-
  Lines are read alike under all indents that keep deeper
  lines deeper, and lines without an indent so: also the
  places and the wording of the faults are the same.
-/
theorem ofLines_reindented
    (file : String)
    (lines : List Line)
    {indent : Nat → Nat}
    (hMono : StrictMono indent)
    (hZero : indent 0 = 0) :
    Spec.ofLines file
        (lines.map (Line.reindented indent)) =
      Spec.ofLines file lines := by
  have hRelaid : Spec.ofLines file
      (lines.map (Line.reindented indent)) =
        movedOutcome id (Spec.moved id)
          (Spec.ofLines file lines) :=
    Spec.ofLines_relaid (Layout.reindenting hMono hZero)
      lines (fun _ => rfl)
  exact hRelaid.trans (movedOutcome_id _)

/- A wizard with a nested step between its properties. -/
def signupLines : List Line :=
  [⟨"app \"Club\"".toList, 0, 1⟩,
    ⟨"screen Signup".toList, 0, 2⟩,
    ⟨"kind: wizard".toList, 1, 3⟩,
    ⟨"steps:".toList, 1, 4⟩,
    ⟨"\"Account\" → [email]".toList, 2, 6⟩,
    ⟨"entity: Member".toList, 1, 7⟩]

/- The wizard is read as well with threefold indents. -/
theorem ofLines_reindented_signupLines :
    StrictMono (3 * ·) ∧ 3 * 0 = 0 ∧
      (∃ spec, Spec.ofLines "club" signupLines = .ok spec) ∧
      Spec.ofLines "club"
          (signupLines.map (Line.reindented (3 * ·))) =
        Spec.ofLines "club" signupLines := by
  have hMono : StrictMono (3 * ·) := by
    intro a b hLess
    dsimp only
    omega
  exact ⟨hMono, rfl, ⟨_, rfl⟩,
    ofLines_reindented "club" signupLines hMono rfl⟩

end Blueprint
