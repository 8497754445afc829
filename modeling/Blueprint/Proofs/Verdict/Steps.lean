import Blueprint.Proofs.Places.Apart
import Blueprint.Proofs.Verdict.Warnings
import Blueprint.Proofs.Written.Flow

/-
  Flows from their lines to their issues. The steps of a
  flow are read as they are written, and verification tells
  of the first one that is out of sequence, of those of an
  AI without an action, and of the first one of an AI if no
  integration can carry it out.

  Main definitions:
    * `StepsTold`
    * `FlowRead`

  Main statements:
    * `exists_of_firstMisnumbered?`
    * `stepsTold_of_flowIssues`
    * `flow_read`
-/

------------------------------------------------------------
-- Steps Out of Sequence
------------------------------------------------------------

namespace Blueprint

variable {expected : Nat}
variable {steps : List FlowStep}

/- No step is misnumbered when the numbers count up. -/
theorem firstMisnumbered?_eq_none_iff_map :
    firstMisnumbered? expected steps = none ↔
      steps.map (·.order.toNat) =
        List.range' expected steps.length := by
  rw [firstMisnumbered?_eq_none_iff]
  constructor
  · intro hNumbered
    apply List.ext_getElem (by simp)
    intro k hStep _
    rw [List.length_map] at hStep
    simpa using hNumbered k steps[k]
      (List.getElem?_eq_getElem hStep)
  · intro hNumbers k step hStep
    have hPlace := congrArg (·[k]?) hNumbers
    obtain ⟨hBound, rfl⟩ := List.getElem?_eq_some_iff.mp hStep
    simpa [hBound] using hPlace

/- The numbers count up to the first misnumbered step. -/
theorem exists_of_firstMisnumbered?
    {step : FlowStep}
    {n : Nat}
    (h : firstMisnumbered? expected steps = some (step, n)) :
    ∃ before after, steps = before ++ step :: after ∧
      before.map (·.order.toNat) =
        List.range' expected before.length ∧
      n = expected + before.length ∧
      step.order.toNat ≠ n := by
  induction steps generalizing expected with
  | nil => cases h
  | cons first steps ih =>
      unfold firstMisnumbered? at h
      split at h
      · rename_i hOrder
        obtain ⟨before, after, rfl, hBefore, rfl, hStep⟩ :=
          ih h
        refine ⟨first :: before, after, rfl, ?_, ?_, hStep⟩
        · rw [List.map_cons, List.length_cons,
            List.range'_succ, hBefore, hOrder]
        · rw [List.length_cons]
          omega
      · rename_i hOrder
        cases h
        exact ⟨[], steps, rfl, rfl, rfl, hOrder⟩

/- A count of 32 bits expects the same of so many steps. -/
theorem toNat_ofNat_of_firstMisnumbered?
    {step : FlowStep}
    {n : Nat}
    (hSteps : steps.length < UInt32.size)
    (h : firstMisnumbered? 1 steps = some (step, n)) :
    (UInt32.ofNat n).toNat = n := by
  rcases exists_of_firstMisnumbered? h with
    ⟨before, after, rfl, _, rfl, _⟩
  rw [List.length_append, List.length_cons] at hSteps
  exact UInt32.toNat_ofNat_of_lt (by omega)

end Blueprint

------------------------------------------------------------
-- Issues of Flows by Code
------------------------------------------------------------

namespace Blueprint

variable {hasAi : Bool}
variable {f : Flow}

/- A flow is told of by its parts, but for its emptiness. -/
theorem withCodes_flowIssues
    {codes : List Code}
    (hCodes : .flowNoSteps ∉ codes) :
    withCodes codes (flowIssues hasAi f) =
      withCodes codes (sequenceIssue? f).toList ++
        withCodes codes
          ((f.steps.filter isEmptyAiStep).map fun step =>
            .of (.error (.flowAiStepEmpty step.order f.name))
              step.location) ++
        withCodes codes (unservedIssue? hasAi f).toList := by
  unfold flowIssues
  split
  · rename_i hEmpty
    have hNone : f.steps = [] := List.isEmpty_iff.mp hEmpty
    unfold sequenceIssue? unservedIssue?
    simp [hNone, firstMisnumbered?, Matter.code, hCodes]
  · rw [withCodes_append, withCodes_append]

/- What is told of a step out of sequence. -/
theorem withCodes_flowNonSequential :
    withCodes [.flowNonSequential] (flowIssues hasAi f) =
      (sequenceIssue? f).toList := by
  rw [withCodes_flowIssues (by decide),
    (reports_sequenceIssue? f).withCodes_eq_self
      (List.Subset.refl _),
    (reports_emptySteps f).withCodes_eq_nil (by decide),
    (reports_unservedIssue? hasAi f).withCodes_eq_nil
      (by decide),
    List.append_nil, List.append_nil]

/- What is told of AI steps that do not say what to do. -/
theorem withCodes_flowAiStepEmpty :
    withCodes [.flowAiStepEmpty] (flowIssues hasAi f) =
      (f.steps.filter isEmptyAiStep).map fun step =>
        .of (.error (.flowAiStepEmpty step.order f.name))
          step.location := by
  rw [withCodes_flowIssues (by decide),
    (reports_sequenceIssue? f).withCodes_eq_nil (by decide),
    (reports_emptySteps f).withCodes_eq_self
      (List.Subset.refl _),
    (reports_unservedIssue? hasAi f).withCodes_eq_nil
      (by decide),
    List.nil_append, List.append_nil]

/- What is told of AI steps without an integration. -/
theorem withCodes_flowAiWithoutIntegration :
    withCodes [.flowAiWithoutIntegration]
        (flowIssues hasAi f) =
      (unservedIssue? hasAi f).toList := by
  rw [withCodes_flowIssues (by decide),
    (reports_sequenceIssue? f).withCodes_eq_nil (by decide),
    (reports_emptySteps f).withCodes_eq_nil (by decide),
    (reports_unservedIssue? hasAi f).withCodes_eq_self
      (List.Subset.refl _),
    List.nil_append, List.nil_append]

end Blueprint

------------------------------------------------------------
-- What Is Told of Steps
------------------------------------------------------------

namespace Blueprint

/-
  What is found, code by code, about a flow with steps at
  their places. Numbers that do not count up from one are
  told once, at the first step that is out of sequence. Each
  bare AI step is told. If no integration can carry out AI
  steps, the first of them is.
-/
structure StepsTold
    (name : String)
    (placed : List (Location × NumberedStep))
    (hasAi : Bool)
    (found : Code → List Issue) : Prop where
  inSequence :
    placed.map (·.2.number) = List.range' 1 placed.length →
      found .flowNonSequential = []
  outOfSequence :
    placed.map (·.2.number) ≠ List.range' 1 placed.length →
      ∃ before place s after,
        placed = before ++ (place, s) :: after ∧
          before.map (·.2.number) =
            List.range' 1 before.length ∧
          s.number ≠ before.length + 1 ∧
          found .flowNonSequential =
            [.of (.warning (.flowNonSequential name s.order
              (before.length + 1))) place]
  bare :
    found .flowAiStepEmpty =
      (placed.filter (·.2.isBare)).map fun (place, s) =>
        .of (.error (.flowAiStepEmpty s.order name)) place
  unserved :
    found .flowAiWithoutIntegration =
      if hasAi then
        []
      else
        ((placed.find? (·.2.isAi)).map fun (place, _) =>
          .of (.warning (.flowAiWithoutIntegration name))
            place).toList

variable {f : Flow}
variable {hasAi : Bool}
variable {placed : List (Location × NumberedStep)}

/- The numbers of steps are the numbers that are written. -/
theorem map_order_map_step
    (hWritable : ∀ p ∈ placed, p.2.IsWritable) :
    (placed.map fun p => p.2.step p.1).map
        (·.order.toNat) =
      placed.map (·.2.number) := by
  rw [List.map_map]
  apply List.map_congr_left
  intro p hMem
  exact NumberedStep.toNat_order (hWritable p hMem)

/- Written steps are in sequence if their numbers count up. -/
theorem firstMisnumbered?_eq_none_iff_of_written
    (hSteps : f.steps = placed.map fun p => p.2.step p.1)
    (hWritable : ∀ p ∈ placed, p.2.IsWritable) :
    firstMisnumbered? 1 f.steps = none ↔
      placed.map (·.2.number) =
        List.range' 1 placed.length := by
  rw [firstMisnumbered?_eq_none_iff_map, hSteps,
    map_order_map_step hWritable, List.length_map]

/- The first written step out of sequence is found. -/
theorem exists_of_firstMisnumbered?_of_written
    {step : FlowStep}
    {n : Nat}
    (hSteps : f.steps = placed.map fun p => p.2.step p.1)
    (hWritable : ∀ p ∈ placed, p.2.IsWritable)
    (h : firstMisnumbered? 1 f.steps = some (step, n)) :
    ∃ before place s after,
      placed = before ++ (place, s) :: after ∧
        before.map (·.2.number) =
          List.range' 1 before.length ∧
        s.number ≠ before.length + 1 ∧
        step = s.step place ∧
        n = before.length + 1 := by
  obtain ⟨first, last, hSplit, hBefore, rfl, hStep⟩ :=
    exists_of_firstMisnumbered? h
  rw [hSteps] at hSplit
  obtain ⟨before, rest, rfl, rfl, hRest⟩ :=
    List.map_eq_append_iff.mp hSplit
  obtain ⟨⟨place, s⟩, after, rfl, rfl, _⟩ :=
    List.map_eq_cons_iff.mp hRest
  have hLength : 1 + (before.map fun p => p.2.step p.1).length =
      before.length + 1 := by
    rw [List.length_map, Nat.add_comm]
  have hOrder : s.order.toNat = s.number :=
    NumberedStep.toNat_order
      (hWritable (place, s) (by simp))
  rw [map_order_map_step fun p hMem =>
      hWritable p (List.mem_append_left _ hMem),
    List.length_map] at hBefore
  rw [hLength] at hStep
  refine ⟨before, place, s, after, rfl, hBefore, ?_, rfl,
    hLength⟩
  rw [← hOrder]
  exact hStep

/- The written steps that are bare marks of an AI. -/
theorem filter_isEmptyAiStep_of_written
    (hWritable : ∀ p ∈ placed, p.2.IsWritable) :
    (placed.map fun p => p.2.step p.1).filter
        isEmptyAiStep =
      (placed.filter (·.2.isBare)).map
        fun p => p.2.step p.1 := by
  rw [List.filter_map]
  congr 1
  apply List.filter_congr
  intro p hMem
  exact NumberedStep.isEmptyAiStep_step p.1
    (hWritable p hMem)

/- Nothing is told of written steps that are in sequence. -/
theorem withCodes_flowNonSequential_eq_nil
    (hSteps : f.steps = placed.map fun p => p.2.step p.1)
    (hWritable : ∀ p ∈ placed, p.2.IsWritable)
    (hNumbers : placed.map (·.2.number) =
      List.range' 1 placed.length) :
    withCodes [.flowNonSequential] (flowIssues hasAi f) =
      [] := by
  rw [withCodes_flowNonSequential, sequenceIssue?,
    (firstMisnumbered?_eq_none_iff_of_written hSteps
      hWritable).mpr hNumbers]
  rfl

/- Of written steps out of sequence, the first is told. -/
theorem exists_withCodes_flowNonSequential
    (hSteps : f.steps = placed.map fun p => p.2.step p.1)
    (hWritable : ∀ p ∈ placed, p.2.IsWritable)
    (hNumbers : placed.map (·.2.number) ≠
      List.range' 1 placed.length) :
    ∃ before place s after,
      placed = before ++ (place, s) :: after ∧
        before.map (·.2.number) =
          List.range' 1 before.length ∧
        s.number ≠ before.length + 1 ∧
        withCodes [.flowNonSequential] (flowIssues hasAi f) =
          [.of (.warning (.flowNonSequential f.name s.order
            (before.length + 1))) place] := by
  cases hFirst : firstMisnumbered? 1 f.steps with
  | none =>
      rw [firstMisnumbered?_eq_none_iff_of_written hSteps
        hWritable] at hFirst
      exact absurd hFirst hNumbers
  | some found =>
      obtain ⟨step, n⟩ := found
      obtain ⟨before, place, s, after, hPlaced, hBefore,
          hNumber, rfl, rfl⟩ :=
        exists_of_firstMisnumbered?_of_written hSteps
          hWritable hFirst
      refine ⟨before, place, s, after, hPlaced, hBefore,
        hNumber, ?_⟩
      rw [withCodes_flowNonSequential, sequenceIssue?, hFirst]
      rfl

/- Each written step that is a bare mark is told. -/
theorem withCodes_flowAiStepEmpty_of_written
    (hSteps : f.steps = placed.map fun p => p.2.step p.1)
    (hWritable : ∀ p ∈ placed, p.2.IsWritable) :
    withCodes [.flowAiStepEmpty] (flowIssues hasAi f) =
      (placed.filter (·.2.isBare)).map fun (place, s) =>
        .of (.error (.flowAiStepEmpty s.order f.name))
          place := by
  rw [withCodes_flowAiStepEmpty, hSteps,
    filter_isEmptyAiStep_of_written hWritable, List.map_map]
  rfl

/- Without an integration, the first AI step is told. -/
theorem withCodes_flowAiWithoutIntegration_of_written
    (hSteps : f.steps = placed.map fun p => p.2.step p.1) :
    withCodes [.flowAiWithoutIntegration]
        (flowIssues hasAi f) =
      if hasAi then
        []
      else
        ((placed.find? (·.2.isAi)).map fun (place, _) =>
          .of (.warning (.flowAiWithoutIntegration f.name))
            place).toList := by
  rw [withCodes_flowAiWithoutIntegration, unservedIssue?,
    hSteps, List.find?_map]
  cases hasAi with
  | true => rfl
  | false =>
      show (Option.map _ (Option.map _
        (placed.find? (·.2.isAi)))).toList = _
      rw [Option.map_map]
      rfl

/- The issues of a flow of written steps are told so. -/
theorem stepsTold_of_flowIssues
    {found : Code → List Issue}
    (hSteps : f.steps = placed.map fun p => p.2.step p.1)
    (hWritable : ∀ p ∈ placed, p.2.IsWritable)
    (hFound : ∀ code ∈ Code.flows false,
      found code = withCodes [code] (flowIssues hasAi f)) :
    StepsTold f.name placed hasAi found where
  inSequence := by
    intro hNumbers
    rw [hFound _ (by decide)]
    exact withCodes_flowNonSequential_eq_nil hSteps hWritable
      hNumbers
  outOfSequence := by
    intro hNumbers
    rw [hFound _ (by decide)]
    exact exists_withCodes_flowNonSequential hSteps hWritable
      hNumbers
  bare := by
    rw [hFound _ (by decide)]
    exact withCodes_flowAiStepEmpty_of_written hSteps
      hWritable
  unserved := by
    rw [hFound _ (by decide)]
    exact withCodes_flowAiWithoutIntegration_of_written hSteps

end Blueprint

------------------------------------------------------------
-- Flows in Documents
------------------------------------------------------------

namespace Blueprint

open Text

variable {name : String}
variable {steps : List NumberedStep}

/-
  A flow with a name is read with its steps. In a block with
  the steps, they stand one by one at the lines below the
  head. The block declares the flow, by itself and in every
  document that has the block. Verification of the document
  tells of the steps, at the lines of the block, what there
  is to tell. A document of such a block alone can be read.
-/
structure FlowRead
    (name : String)
    (steps : List NumberedStep) : Prop where
  placed :
    ∀ file (b : Block), b.IsFlow name steps →
      (b.placed file steps).map Prod.fst =
          b.body.map (·.location file) ∧
        (b.placed file steps).map Prod.snd = steps
  alone :
    ∀ file b, b.IsFlow name steps →
      Declaration.ofBlock file b =
        .ok (.flow (b.flow file name steps))
  declared :
    ∀ file source spec b, b.IsFlow name steps →
      Spec.parse file source = .ok spec →
        b ∈ documentBlocks source →
          b.flow file name steps ∈ spec.flows
  told :
    ∀ file source spec b, b.IsFlow name steps →
      Spec.parse file source = .ok spec →
        b ∈ documentBlocks source →
          StepsTold name (b.placed file steps) spec.hasAi
            fun code =>
              issuesWithin code
                (b.lines.map (·.location file))
                spec.verify.issues
  written :
    ∀ file appName named, IsQuotable appName →
      WritesName named name → '\n' ∉ named →
        (∀ s ∈ steps, '\n' ∉ s.description) →
          Spec.parse file
              (flowDocument appName named steps) =
            .ok {
              appName := String.ofList appName
              entities := []
              screens := []
              flows :=
                [⟨name,
                  steps.mapIdx fun i s =>
                    s.step ⟨file, 3 + i⟩,
                  ⟨file, 2⟩⟩]
              rules := []
              integrations := []
              events := [] }

/-
  Flows are read with the steps that are written, and told
  of by the numbers and the first letters of the steps.
-/
theorem flow_read
    (name : String)
    (hWritable : ∀ s ∈ steps, s.IsWritable) :
    FlowRead name steps where
  placed := fun file _ hFlow =>
    ⟨hFlow.map_fst_placed file, hFlow.map_snd_placed file⟩
  alone := fun file _ hFlow => hFlow.ofBlock_eq file hWritable
  declared := fun _ _ _ _ hFlow hSpec hBlock =>
    hFlow.mem_flows hWritable hSpec hBlock
  told := by
    intro file source spec b hFlow hSpec hBlock
    have hDeclared := hFlow.mem_flows hWritable hSpec hBlock
    have hPlaced : ∀ p ∈ b.placed file steps,
        p.2.IsWritable := by
      intro p hMem
      exact hWritable p.2 (List.of_mem_zip hMem).2
    have hFound : ∀ code ∈ Code.flows false,
        issuesWithin code (b.lines.map (·.location file))
            spec.verify.issues =
          withCodes [code] (flowIssues spec.hasAi
            (b.flow file name steps)) := by
      intro code hCode
      rw [← hFlow.places_flow file]
      exact Spec.issuesWithin_flow hSpec hDeclared hCode
    exact stepsTold_of_flowIssues rfl hPlaced hFound
  written := fun file _ _ hApp hName hNamed hLine =>
    parse_flowDocument file hApp hName hNamed hWritable hLine

/- Steps with a zero in front, capitals and a bare mark. -/
def triageSteps : List NumberedStep :=
  [⟨"01".toList, "aï the ticket".toList⟩,
   ⟨"2".toList, "aI  sort it".toList⟩,
   ⟨"4".toList, "AI:".toList⟩]

/- How a flow of these steps is written. -/
def triageSource : String :=
  "app \"T\"\nflow \"Ticket triage\"\n  01. aï the ticket\n" ++
    "  2. aI  sort it\n  4. AI:"

/- The specification that is meant. -/
def triageSpec : Spec where
  appName := "T"
  entities := []
  screens := []
  flows := [{
    name := "Ticket triage"
    steps := [
      ⟨1, "aï the ticket", false, none, ⟨"t", 3⟩⟩,
      ⟨2, "aI  sort it", true, some "sort it", ⟨"t", 4⟩⟩,
      ⟨4, "AI:", true, some "", ⟨"t", 5⟩⟩]
    location := ⟨"t", 2⟩ }]
  rules := []
  integrations := []
  events := []

/- The flow is read, and all three faults of it are told. -/
theorem flow_read_triageSteps :
    (∀ s ∈ triageSteps, s.IsWritable) ∧
      Spec.parse "t" triageSource = .ok triageSpec ∧
      withCodes (Code.flows false) triageSpec.verify.issues =
        [.of (.warning (.flowNonSequential "Ticket triage" 4 3))
          ⟨"t", 5⟩,
         .of (.error (.flowAiStepEmpty 4 "Ticket triage"))
          ⟨"t", 5⟩,
         .of
          (.warning (.flowAiWithoutIntegration "Ticket triage"))
          ⟨"t", 4⟩] ∧
      FlowRead "Ticket triage" triageSteps := by
  have hWritable : ∀ s ∈ triageSteps, s.IsWritable := by
    decide
  have hRead := flow_read "Ticket triage" hWritable
  have hSource : triageSource = flowDocument "T".toList
      (inQuotes "Ticket triage".toList) triageSteps := by
    decide +kernel
  refine ⟨hWritable, ?_, ?_, hRead⟩
  · rw [hSource]
    exact hRead.written "t" "T".toList
      (inQuotes "Ticket triage".toList)
      ⟨by decide, by decide⟩ (.quoted _) (by decide)
      (by decide)
  · decide +kernel

end Blueprint
