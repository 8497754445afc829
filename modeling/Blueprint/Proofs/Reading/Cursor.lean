import Blueprint.Proofs.Reading.Blockwise

/-
  Reading with a cursor. The lines behind the header are read
  in one loop, which keeps the position it has reached, the
  declarations it has read and the faults it has met. It
  reads the same as to cut the lines into blocks first and to
  read these one by one.

  Main definitions:
    * `Progress`
    * `readFrom`
    * `readLines`

  Main statements:
    * `readFrom_of_lt`
    * `readFrom_eq_foldl`
    * `readLines_eq_ofLines`
-/

------------------------------------------------------------
-- The Loop
------------------------------------------------------------

namespace Blueprint

/- Put a declaration behind those of its kind. -/
def Spec.push
    (spec : Spec) : Declaration → Spec
| .entity e =>
    { spec with entities := spec.entities ++ [e] }
| .screen s =>
    { spec with screens := spec.screens ++ [s] }
| .flow f => { spec with flows := spec.flows ++ [f] }
| .rule r => { spec with rules := spec.rules ++ [r] }
| .integration i =>
    { spec with integrations := spec.integrations ++ [i] }
| .event e => { spec with events := spec.events ++ [e] }

/- What has been read, and the faults that were met. -/
structure Progress where
  spec : Spec
  faults : List Fault

namespace Progress

def start (appName : String) : Progress :=
  ⟨⟨appName, [], [], [], [], [], []⟩, []⟩

def add (p : Progress) : Except Fault Declaration → Progress
| .ok d => { p with spec := p.spec.push d }
| .error fault => { p with faults := p.faults ++ [fault] }

/- With a fault, what has been read does not count. -/
def outcome (p : Progress) : Except (List Fault) Spec :=
  if p.faults.isEmpty then .ok p.spec else .error p.faults

end Progress

/- The end of a block is not before its start. -/
theorem le_blockEnd
    (lines : List Line)
    (start level : Nat) :
    start ≤ blockEnd lines start level :=
  Nat.le_add_right _ _

/- Deeper lines end where they end without their first. -/
theorem blockEnd_of_deeper
    {lines : List Line}
    {position level : Nat}
    (hPosition : position < lines.length)
    (hDeep : level < lines[position].indent) :
    blockEnd lines position level =
      blockEnd lines (position + 1) level := by
  unfold blockEnd
  rw [List.drop_eq_getElem_cons hPosition,
    List.takeWhile_cons_of_pos (by simpa using hDeep)]
  simp only [List.length_cons]
  omega

/-
  Read the lines from a position on. A line that is deeper
  than the top level belongs to no declaration: it is a
  fault, and the run of deeper lines is skipped.
-/
def readFrom
    (file : String)
    (lines : List Line)
    (position : Nat)
    (p : Progress) : Progress :=
  if hPosition : position < lines.length then
    let head := lines[position]
    if 0 < head.indent then
      let stray := head.blame file
        (.error (.strayLine head.content))
      readFrom file lines (blockEnd lines position 0)
        (p.add stray)
    else
      let stop := blockEnd lines (position + 1) 0
      let body := (lines.take stop).drop (position + 1)
      readFrom file lines stop
        (p.add (Declaration.ofBlock file ⟨head, body⟩))
  else
    p
termination_by lines.length - position
decreasing_by
  · rename_i hStray
    have hStop := le_blockEnd lines (position + 1) 0
    rw [← blockEnd_of_deeper hPosition hStray] at hStop
    omega
  · have hStop := le_blockEnd lines (position + 1) 0
    omega

/- The specification that lines write, read with a cursor. -/
def readLines
    (file : String)
    (lines : List Line) : Except (List Fault) Spec :=
  match readHeader file lines with
  | .error fault => .error [fault]
  | .ok (appName, _) =>
      (readFrom file lines 1 (.start appName)).outcome

end Blueprint

------------------------------------------------------------
-- Block by Block
------------------------------------------------------------

namespace Blueprint

variable {file : String}
variable {lines : List Line}

/-
  On a line, the loop reads the block of the line and goes on
  at its end. This holds of a stray line as well, whose block
  gives its fault.
-/
theorem readFrom_of_lt
    {position : Nat}
    (hPosition : position < lines.length)
    (p : Progress) :
    let stop := blockEnd lines (position + 1) 0
    readFrom file lines position p =
      readFrom file lines stop
        (p.add (Declaration.ofBlock file
          ⟨lines[position],
            (lines.take stop).drop (position + 1)⟩)) := by
  intro stop
  conv_lhs => unfold readFrom
  rw [dif_pos hPosition]
  dsimp only
  split
  case isTrue hStray =>
      rw [blockEnd_of_deeper hPosition hStray]
      congr 2
      unfold Declaration.ofBlock
      exact (if_pos hStray).symm
  case isFalse => rfl

/- The loop adds what the blocks give, one after the other. -/
theorem readFrom_eq_foldl
    (position : Nat)
    (p : Progress) :
    readFrom file lines position p =
      ((blocks 0 (lines.drop position)).map
        (Declaration.ofBlock file)).foldl Progress.add p := by
  induction hLeft : lines.length - position
    using Nat.strongRecOn generalizing position p with
  | _ left ih =>
      by_cases hPosition : position < lines.length
      · have hStop := le_blockEnd lines (position + 1) 0
        rw [readFrom_of_lt hPosition,
          blocks_drop 0 lines position hPosition,
          List.map_cons, List.foldl_cons]
        exact ih _ (by omega) _ _ rfl
      · unfold readFrom
        rw [dif_neg hPosition,
          List.drop_eq_nil_of_le (Nat.not_lt.mp hPosition)]
        rfl

end Blueprint

------------------------------------------------------------
-- What Has Been Read
------------------------------------------------------------

namespace Blueprint

namespace Spec

/- To put one in front and one behind are two things. -/
theorem cons_push
    (spec : Spec)
    (d e : Declaration) :
    cons d (spec.push e) = (cons d spec).push e := by
  cases d <;> cases e <;> rfl

theorem foldl_push_cons
    (spec : Spec)
    (d : Declaration)
    (ds : List Declaration) :
    ds.foldl push (cons d spec) =
      cons d (ds.foldl push spec) := by
  induction ds generalizing spec with
  | nil => rfl
  | cons e ds ih =>
      rw [List.foldl_cons, List.foldl_cons, ← cons_push, ih]

/- Declarations put behind each other keep their order. -/
theorem foldl_push_start
    (appName : String)
    (ds : List Declaration) :
    ds.foldl push (Progress.start appName).spec =
      ofDeclarations appName ds := by
  induction ds with
  | nil => rfl
  | cons d ds ih =>
      have hFirst : (Progress.start appName).spec.push d =
          cons d (Progress.start appName).spec := by
        cases d <;> rfl
      rw [List.foldl_cons, hFirst, foldl_push_cons, ih]
      rfl

end Spec

namespace Progress

variable (p : Progress)
variable (results : List (Except Fault Declaration))

/- The faults are those of the results, in their order. -/
theorem faults_foldl_add :
    (results.foldl add p).faults =
      p.faults ++ faultsOf results := by
  induction results generalizing p with
  | nil => exact (List.append_nil _).symm
  | cons result results ih =>
      rw [List.foldl_cons, ih]
      cases result with
      | ok d => rfl
      | error fault => exact List.append_assoc ..

/- A fault takes nothing from what the others declare. -/
theorem spec_foldl_add :
    (results.foldl add p).spec =
      (valuesOf results).foldl Spec.push p.spec := by
  induction results generalizing p with
  | nil => rfl
  | cons result results ih =>
      rw [List.foldl_cons, ih]
      cases result <;> rfl

/- In the end all is declared, or all faults are told. -/
theorem outcome_foldl_add (appName : String) :
    (results.foldl add (start appName)).outcome =
      (collect results).map
        (Spec.ofDeclarations appName) := by
  unfold outcome
  rw [faults_foldl_add, spec_foldl_add,
    Spec.foldl_push_start, collect_eq]
  by_cases hFaults : faultsOf results = []
  · rw [if_pos hFaults, hFaults]
    rfl
  · rw [if_neg hFaults, if_neg]
    · rfl
    · simpa [start] using hFaults

end Progress

/-
  The cursor reads the same as block by block, whatever the
  lines: the same specification, or the same faults.
-/
theorem readLines_eq_ofLines
    (file : String)
    (lines : List Line) :
    readLines file lines = Spec.ofLines file lines := by
  unfold readLines Spec.ofLines
  cases hHeader : readHeader file lines with
  | error fault => rfl
  | ok header =>
      have hRest : lines.drop 1 = header.2 := by
        unfold readHeader at hHeader
        split at hHeader
        · cases hHeader
        · split at hHeader
          · cases hHeader
          · split at hHeader
            · cases hHeader
              rfl
            · cases hHeader
      dsimp only
      rw [readFrom_eq_foldl, hRest, Progress.outcome_foldl_add]

end Blueprint
