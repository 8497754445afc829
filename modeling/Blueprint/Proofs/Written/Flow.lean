import Blueprint.Flow
import Blueprint.Proofs.Reading.Names
import Blueprint.Proofs.Text.Digit
import Blueprint.Proofs.Text.LetterCase
import Blueprint.Proofs.Written.Document

/-
  How flows are written, one numbered step a line, and that
  their steps are read back: in the order of the lines, with
  the numbers that are written, and as steps of an AI if
  they start so in letters of any case.

  Main definitions:
    * `NumberedStep`, `NumberedStep.text`, `NumberedStep.step`
    * `Block.IsFlow`, `Block.placed`, `Block.flow`
    * `flowDocument`

  Main statements:
    * `aiAction?_eq`
    * `NumberedStep.ofLine_text`
    * `Block.IsFlow.ofBlock_eq`
    * `parse_flowDocument`
-/

------------------------------------------------------------
-- Numbered Steps
------------------------------------------------------------

namespace Blueprint

open Text

/- A text starts with `ai:` or `ai ` in any ASCII case. -/
def startsWithAi (text : List Char) : Bool :=
  ["ai:".toList, "ai ".toList].contains
    (asciiLowercase (text.take 3))

/- A step of a flow in written form. -/
structure NumberedStep where
  digits : List Char
  description : List Char
deriving DecidableEq, Repr

namespace NumberedStep

/- The step as it is written. -/
def text (s : NumberedStep) : List Char :=
  s.digits ++ '.' :: ' ' :: s.description

/- The number of the step. -/
def number (s : NumberedStep) : Nat :=
  digitsValue s.digits

/- The number as it is kept. -/
def order (s : NumberedStep) : UInt32 :=
  UInt32.ofNat s.number

/- The step is one of an AI. -/
def isAi (s : NumberedStep) : Bool :=
  startsWithAi s.description

/- There is nothing but the mark of an AI in the step. -/
def isBare (s : NumberedStep) : Bool :=
  asciiLowercase s.description == "ai:".toList

/- The step that is meant, at a place. -/
def step
    (s : NumberedStep)
    (place : Location) : FlowStep where
  order := s.order
  description := String.ofList s.description
  ai := s.isAi
  action :=
    if s.isAi then
      some (String.ofList (trim (s.description.drop 3)))
    else
      none
  location := place

/-
  A step has a number of 32 bits in ASCII digits, maybe with
  zeros in front, and a trimmed description.
-/
structure IsWritable (s : NumberedStep) : Prop where
  some_digit : s.digits ≠ []
  digits : ∀ c ∈ s.digits, c.isDigit = true
  bound : s.number < UInt32.size
  description : IsSolid s.description

instance (s : NumberedStep) : Decidable s.IsWritable :=
  decidable_of_iff
    (s.digits ≠ [] ∧ s.digits.all Char.isDigit = true ∧
      s.number < UInt32.size ∧ IsSolid s.description)
    ⟨fun ⟨hSome, hDigits, hBound, hSolid⟩ =>
        ⟨hSome, List.all_eq_true.mp hDigits, hBound, hSolid⟩,
      fun h => ⟨h.1, List.all_eq_true.mpr h.2, h.3, h.4⟩⟩

end NumberedStep

end Blueprint

------------------------------------------------------------
-- Steps Read Back
------------------------------------------------------------

namespace Blueprint

open Text

/- The action of an AI is what follows its three letters. -/
theorem aiAction?_eq (text : List Char) :
    aiAction? text =
      if startsWithAi text then
        some (trim (text.drop 3))
      else
        none := by
  match text with
  | [] => rfl
  | [a] => simp [aiAction?, startsWithAi, asciiLowercase]
  | [a, i] => simp [aiAction?, startsWithAi, asciiLowercase]
  | a :: i :: mark :: rest =>
      have hColon : mark.toLower = ':' ↔ mark = ':' :=
        toLower_eq_iff_of_lt (by decide)
      have hSpace : mark.toLower = ' ' ↔ mark = ' ' :=
        toLower_eq_iff_of_lt (by decide)
      have hPrefix : startsWithAi (a :: i :: mark :: rest) =
          (decide (a.toLower = 'a') &&
            decide (i.toLower = 'i') &&
              (decide (mark = ':') ||
                decide (mark = ' '))) := by
        rw [Bool.eq_iff_iff]
        simp [startsWithAi, asciiLowercase, hColon, hSpace,
          and_assoc, ← and_or_left]
      rw [hPrefix]
      rfl

/- A trimmed text with nothing behind its start is `ai:`. -/
theorem asciiLowercase_eq_iff
    {text : List Char}
    (hSolid : IsSolid text) :
    asciiLowercase text = "ai:".toList ↔
      startsWithAi text = true ∧ text.drop 3 = [] := by
  constructor
  · intro hBare
    have hLength : text.length = 3 := by
      simpa [asciiLowercase] using congrArg List.length hBare
    have hAll : text.take 3 = text :=
      List.take_of_length_le (Nat.le_of_eq hLength)
    refine ⟨?_, List.drop_of_length_le (Nat.le_of_eq hLength)⟩
    rw [startsWithAi, hAll, hBare]
    rfl
  · rintro ⟨hAi, hNone⟩
    have hAll : text.take 3 = text :=
      List.take_of_length_le (List.drop_eq_nil_iff.mp hNone)
    rw [startsWithAi, hAll] at hAi
    simp only [List.contains_cons, List.contains_nil,
      Bool.or_false, Bool.or_eq_true, beq_iff_eq] at hAi
    refine hAi.resolve_right fun hSpace => ?_
    -- A solid text does not end with a space.
    have hEnd := congrArg List.getLast? hSpace
    rw [asciiLowercase, List.getLast?_map] at hEnd
    obtain ⟨c, hLast, hLower⟩ := Option.map_eq_some_iff.mp hEnd
    have hBlank := hSolid.last c hLast
    rw [(toLower_eq_iff_of_lt (by decide)).mp hLower] at hBlank
    cases hBlank

namespace NumberedStep

variable {s : NumberedStep}

/- The number and the description are told apart. -/
theorem parts?_text (hWritable : s.IsWritable) :
    FlowStep.parts? s.text =
      some (s.digits, s.description) := by
  have hDigits : ∀ c ∈ s.digits, isDecimalDigit c = true :=
    fun c hMem =>
      isDecimalDigit_of_isDigit (hWritable.digits c hMem)
  have hStop : ('.' :: ' ' :: s.description).takeWhile
      isDecimalDigit = [] :=
    rfl
  have hRest : ('.' :: ' ' :: s.description).dropWhile
      isDecimalDigit = '.' :: ' ' :: s.description :=
    rfl
  have hDot : stripStart ['.']
      ('.' :: ' ' :: s.description) =
        some (' ' :: s.description) :=
    rfl
  have hSkip : skipBlanks? (' ' :: s.description) =
      some (trimStart s.description) :=
    rfl
  have hStart : trimStart s.description = s.description :=
    hWritable.description.trimStart_eq
  have hSome : ¬ (s.digits.isEmpty ||
      s.description.isEmpty) = true := by
    simp [hWritable.some_digit,
      hWritable.description.ne_nil]
  unfold FlowStep.parts? text
  rw [List.takeWhile_append_of_pos hDigits,
    List.dropWhile_append_of_pos hDigits, hStop, hRest,
    List.append_nil, hDot]
  simp only [Option.bind_eq_bind, Option.bind_some]
  rw [hSkip, hStart, Option.bind_some, if_neg hSome,
    hWritable.description.trim_eq]

/- What is read as a step is the step that is meant. -/
theorem ofParts_eq
    (s : NumberedStep)
    (place : Location) :
    FlowStep.ofParts place s.order s.description =
      s.step place := by
  unfold FlowStep.ofParts step isAi
  rw [aiAction?_eq]
  cases startsWithAi s.description <;> rfl

/- A written step is read back from its line. -/
theorem ofLine_text
    (file : String)
    {line : Line}
    (hWritable : s.IsWritable)
    (hText : line.text = s.text) :
    FlowStep.ofLine file line =
      .ok (s.step (line.location file)) := by
  have hOrder : readUInt32? s.digits = some s.order :=
    readUInt32?_of_forall hWritable.some_digit
      hWritable.digits hWritable.bound
  rw [FlowStep.ofLine, hText, FlowStep.ofText,
    parts?_text hWritable]
  dsimp only
  rw [hOrder]
  exact congrArg Except.ok (ofParts_eq s _)

/- The lines of the steps are read one by one. -/
theorem mapM_ofLine
    (file : String)
    {body : List Line}
    {steps : List NumberedStep}
    (hBody : body.map Line.text = steps.map text)
    (hWritable : ∀ s ∈ steps, s.IsWritable) :
    body.mapM (FlowStep.ofLine file) =
      .ok (((body.map (·.location file)).zip steps).map
        fun p => p.2.step p.1) := by
  induction steps generalizing body with
  | nil =>
      rw [List.map_eq_nil_iff.mp hBody]
      rfl
  | cons s steps ih =>
      obtain ⟨line, rest, rfl, hText, hRest⟩ :=
        List.map_eq_cons_iff.mp hBody
      rw [List.forall_mem_cons] at hWritable
      rw [List.mapM_cons,
        ofLine_text file hWritable.1 hText,
        ih hRest hWritable.2]
      rfl

/- The number of a step is kept. -/
theorem toNat_order (hWritable : s.IsWritable) :
    s.order.toNat = s.number :=
  UInt32.toNat_ofNat_of_lt hWritable.bound

/-
  An AI step does not say what to do exactly if nothing is
  written behind the mark of an AI.
-/
theorem isEmptyAiStep_step
    (place : Location)
    (hWritable : s.IsWritable) :
    isEmptyAiStep (s.step place) = s.isBare := by
  have hSolid := hWritable.description
  have hAction : isBlankText
      (trim (s.description.drop 3)) = true ↔
        s.description.drop 3 = [] := by
    rw [isBlankText, trim_trim, ← isBlankText,
      hSolid.isBlankText_drop, List.isEmpty_iff]
  rw [isBare, Bool.eq_iff_iff, beq_iff_eq,
    asciiLowercase_eq_iff hSolid, ← hAction]
  unfold isEmptyAiStep step isAi
  cases startsWithAi s.description with
  | false => simp
  | true => simp [isBlankString]

end NumberedStep

end Blueprint

------------------------------------------------------------
-- Blocks of Steps
------------------------------------------------------------

namespace Blueprint

open Text

namespace Block

/-
  A block opens a flow with a name and has a step in every
  line below its head, all at one indent.
-/
structure IsFlow
    (b : Block)
    (name : String)
    (steps : List NumberedStep) : Prop where
  opens : b.head.opens .flow = true
  named : WritesName b.head.named name
  body : b.body.map Line.text = steps.map NumberedStep.text
  even :
    ∀ line ∈ b.body, ∀ other ∈ b.body,
      line.indent = other.indent

/- The steps below the head of a block, with their places. -/
def placed
    (b : Block)
    (file : String)
    (steps : List NumberedStep) :
    List (Location × NumberedStep) :=
  (b.body.map (·.location file)).zip steps

/- The flow that is meant. -/
def flow
    (b : Block)
    (file name : String)
    (steps : List NumberedStep) : Flow where
  name := name
  steps := (b.placed file steps).map fun p => p.2.step p.1
  location := b.head.location file

variable {b : Block}
variable {name : String}
variable {steps : List NumberedStep}

/- There are as many places as steps. -/
theorem IsFlow.length_body (hFlow : b.IsFlow name steps) :
    b.body.length = steps.length := by
  simpa using congrArg List.length hFlow.body

/- The places of the steps are the lines of the body. -/
theorem IsFlow.map_fst_placed
    (file : String)
    (hFlow : b.IsFlow name steps) :
    (b.placed file steps).map Prod.fst =
      b.body.map (·.location file) := by
  apply List.map_fst_zip
  rw [List.length_map, hFlow.length_body]

/- Every step has its place. -/
theorem IsFlow.map_snd_placed
    (file : String)
    (hFlow : b.IsFlow name steps) :
    (b.placed file steps).map Prod.snd = steps := by
  apply List.map_snd_zip
  rw [List.length_map, hFlow.length_body]

/- The places of the flow are the lines of the block. -/
theorem IsFlow.places_flow
    (file : String)
    (hFlow : b.IsFlow name steps) :
    (b.flow file name steps).places =
      b.lines.map (·.location file) := by
  rw [Flow.places, flow, List.map_map, lines, List.map_cons,
    ← hFlow.map_fst_placed]
  rfl

/- The block declares the flow that is meant. -/
theorem IsFlow.ofBlock_eq
    (file : String)
    (hFlow : b.IsFlow name steps)
    (hWritable : ∀ s ∈ steps, s.IsWritable) :
    Declaration.ofBlock file b =
      .ok (.flow (b.flow file name steps)) := by
  have hName : readName .flow b.head.named = .ok name :=
    (readName_eq_ok_iff .flow b.head.trim_named).mpr
      hFlow.named
  have hEven : checkEven file .flow b.body = .ok () := by
    cases hBody : b.body with
    | nil => rfl
    | cons line more =>
        apply checkEven_of_forall
        intro other hMem
        rw [← hBody] at hMem
        exact hFlow.even other hMem line
          (hBody ▸ List.mem_cons_self)
  have hSteps := NumberedStep.mapM_ofLine file hFlow.body
    hWritable
  rw [Declaration.ofBlock_of_opens hFlow.opens,
    Declaration.ofKeyword, ← Line.named, Flow.ofBlock, hName,
    hEven, hSteps]
  rfl

/- The flow is declared by the document of the block. -/
theorem IsFlow.mem_flows
    {file source : String}
    {spec : Spec}
    (hFlow : b.IsFlow name steps)
    (hWritable : ∀ s ∈ steps, s.IsWritable)
    (hSpec : Spec.parse file source = .ok spec)
    (hBlock : b ∈ documentBlocks source) :
    b.flow file name steps ∈ spec.flows := by
  have hRead := hFlow.ofBlock_eq file hWritable
  have hMem := Spec.mem_ofKind_of_ofBlock hSpec hBlock hRead
  rcases List.mem_map.mp hMem with ⟨f, hFlows, hSame⟩
  cases hSame
  exact hFlows

end Block

end Blueprint

------------------------------------------------------------
-- Documents of One Flow
------------------------------------------------------------

namespace Blueprint

open Text

/- The head of a flow. -/
def flowHead (named : List Char) : List Char :=
  "flow ".toList ++ named

/- A document of a flow with a step a row. -/
def flowDocument
    (appName named : List Char)
    (steps : List NumberedStep) : String :=
  documentText appName
    (flowHead named :: steps.map (indented 1 ·.text))

/- The block of the flow. -/
def flowBlock
    (named : List Char)
    (steps : List NumberedStep) : Block where
  head := ⟨flowHead named, 0, 2⟩
  body := linesFrom 3 (steps.map (indented 1 ·.text))

variable {named : List Char}
variable {name : String}
variable {steps : List NumberedStep}

namespace NumberedStep

variable {s : NumberedStep}

/- A step starts with a digit and ends like its text. -/
theorem isSolid_text (hWritable : s.IsWritable) :
    IsSolid s.text := by
  have hDigits : IsSolid s.digits :=
    isSolid_of_forall hWritable.some_digit fun c hMem =>
      isBlank_of_isDigit (hWritable.digits c hMem)
  have hSolid :=
    hDigits.append hWritable.description ['.', ' ']
  rwa [List.append_assoc] at hSolid

/- The line of a step has its text. -/
theorem ofRow?_text
    (number : Nat)
    (hWritable : s.IsWritable) :
    Line.ofRow? number (indented 1 s.text) =
      some ⟨s.text, 1, number⟩ := by
  apply ofRow?_indented number 1 (isSolid_text hWritable)
  intro hMark
  rw [text, List.head?_append_of_ne_nil _
    hWritable.some_digit] at hMark
  have hDigit := hWritable.digits '#'
    (List.mem_of_mem_head? hMark)
  cases hDigit

/- A step is on one line if its description is. -/
theorem not_mem_text
    (hWritable : s.IsWritable)
    (hLine : '\n' ∉ s.description) :
    '\n' ∉ s.text := by
  have hDigits : '\n' ∉ s.digits := by
    intro hMem
    have hDigit := hWritable.digits '\n' hMem
    cases hDigit
  simp [text, hDigits, hLine]

end NumberedStep

/- The lines of the steps count up from the third. -/
theorem body_flowBlock
    (named : List Char)
    (hWritable : ∀ s ∈ steps, s.IsWritable) :
    (flowBlock named steps).body =
      steps.mapIdx fun i s => ⟨s.text, 1, 3 + i⟩ :=
  linesFrom_map 3 fun s hMem n =>
    NumberedStep.ofRow?_text n (hWritable s hMem)

/- The block is one of a flow with these steps. -/
theorem isFlow_flowBlock
    (hName : WritesName named name)
    (hWritable : ∀ s ∈ steps, s.IsWritable) :
    (flowBlock named steps).IsFlow name steps where
  opens := rfl
  named := by
    have hNamed : (flowBlock named steps).head.named =
        trim named :=
      rfl
    rw [hNamed, hName.isSolid.trim_eq]
    exact hName
  body := by
    rw [body_flowBlock named hWritable]
    apply List.ext_getElem
    · simp
    · intro i _ _
      simp
  even := by
    rw [body_flowBlock named hWritable]
    intro line hLine other hOther
    obtain ⟨i, _, rfl⟩ := List.mem_mapIdx.mp hLine
    obtain ⟨j, _, rfl⟩ := List.mem_mapIdx.mp hOther
    rfl

/- The steps of the block count up from its third line. -/
theorem flow_flowBlock
    (file name : String)
    (named : List Char)
    (hWritable : ∀ s ∈ steps, s.IsWritable) :
    (flowBlock named steps).flow file name steps =
      ⟨name, steps.mapIdx fun i s => s.step ⟨file, 3 + i⟩,
        ⟨file, 2⟩⟩ := by
  have hPlaced :
      (((flowBlock named steps).placed file steps).map
        fun p => p.2.step p.1) =
        steps.mapIdx fun i s => s.step ⟨file, 3 + i⟩ := by
    rw [Block.placed, body_flowBlock named hWritable]
    apply List.ext_getElem
    · simp
    · intro i _ _
      simp [Line.location]
  rw [Block.flow, hPlaced]
  rfl

/- The rows of the flow are one block. -/
theorem isCut_flowBlock
    (hName : WritesName named name)
    (hWritable : ∀ s ∈ steps, s.IsWritable) :
    IsCut 0
      (linesFrom 2
        (flowHead named :: steps.map (indented 1 ·.text)))
      [flowBlock named steps] := by
  apply isCut_of_keyword .flow 2 hName.isSolid
  intro line hLine
  have hIndent : line.indent = 1 :=
    indent_of_mem_linesFrom 3
      (fun s hMem n =>
        NumberedStep.ofRow?_text n (hWritable s hMem))
      line hLine
  omega

/- A document of one flow is read as that flow. -/
theorem parse_flowDocument
    {appName : List Char}
    (file : String)
    (hApp : IsQuotable appName)
    (hName : WritesName named name)
    (hNamed : '\n' ∉ named)
    (hWritable : ∀ s ∈ steps, s.IsWritable)
    (hLine : ∀ s ∈ steps, '\n' ∉ s.description) :
    Spec.parse file (flowDocument appName named steps) =
      .ok {
        appName := String.ofList appName
        entities := []
        screens := []
        flows :=
          [⟨name,
            steps.mapIdx fun i s => s.step ⟨file, 3 + i⟩,
            ⟨file, 2⟩⟩]
        rules := []
        integrations := []
        events := [] } := by
  have hRows :
      ∀ row ∈ flowHead named ::
          steps.map (indented 1 ·.text), '\n' ∉ row := by
    have hKeyword : '\n' ∉ "flow ".toList := by decide
    rw [List.forall_mem_cons, List.forall_mem_map]
    refine ⟨List.not_mem_append hKeyword hNamed, ?_⟩
    intro s hMem
    exact not_mem_indented 1
      (NumberedStep.not_mem_text (hWritable s hMem)
        (hLine s hMem))
  have hCut := isCut_flowBlock hName hWritable
  have hFlow := (isFlow_flowBlock hName hWritable).ofBlock_eq
    file hWritable
  rw [flow_flowBlock file name named hWritable] at hFlow
  have hRead :
      [flowBlock named steps].map
          (Declaration.ofBlock file) =
        [Declaration.flow ⟨name,
          steps.mapIdx fun i s => s.step ⟨file, 3 + i⟩,
          ⟨file, 2⟩⟩].map .ok :=
    congrArg ([·]) hFlow
  exact parse_documentText file hApp hRows hCut hRead

end Blueprint
