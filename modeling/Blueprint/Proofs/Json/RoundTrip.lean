import Blueprint.Proofs.Json.Records
import Blueprint.Proofs.Places.Lines
import Blueprint.Verify

/-
  Specifications and the outcomes of readings, written as
  JSON and read back: nothing is lost, so the report on what
  was read back is the report on the document.

  Main definitions:
    * `Spec.InRange`
    * `Spec.ofReading?`

  Main statements:
    * `Spec.reads`
    * `Spec.inRange_of_parse`
    * `spec_reread`
-/

------------------------------------------------------------
-- Specifications
------------------------------------------------------------

namespace Blueprint

namespace Spec

/- All lines are numbers of 32 bits. -/
def InRange (spec : Spec) : Prop :=
  ∀ l ∈ spec.places, l.InRange

instance (spec : Spec) : Decidable spec.InRange :=
  inferInstanceAs (Decidable (∀ l ∈ spec.places, l.InRange))

theorem reads
    {spec : Spec}
    (h : spec.InRange) :
    Json.Reads ofJson? spec.toJson spec := by
  apply Json.reads_object (by simp)
  intro others hTold
  have hName := hTold.field? "app_name" rfl
    (Json.reads_string spec.appName)
  have hEntities := hTold.field? "entities" rfl
    (Json.reads_ofList fun e hMem =>
      Entity.reads fun l hPlace =>
        h l (entity_places hMem hPlace))
  have hScreens := hTold.field? "screens" rfl
    (Json.reads_ofList fun s hMem =>
      Screen.reads fun l hPlace =>
        h l (screen_places hMem hPlace))
  have hFlows := hTold.field? "flows" rfl
    (Json.reads_ofList fun f hMem =>
      Flow.reads fun l hPlace => h l (flow_places hMem hPlace))
  have hRules := hTold.field? "rules" rfl
    (Json.reads_ofList fun r hMem =>
      Rule.reads (h _ (rule_place hMem)))
  have hIntegrations := hTold.field? "integrations" rfl
    (Json.reads_ofList fun i hMem =>
      Integration.reads (h _ (integration_place hMem)))
  have hEvents := hTold.field? "events" rfl
    (Json.reads_ofList fun e hMem =>
      Event.reads (h _ (event_place hMem)))
  simp [ofJson?, Json.record?, hName, hEntities, hScreens,
    hFlows, hRules, hIntegrations, hEvents]

end Spec

end Blueprint

------------------------------------------------------------
-- Lines of a Document
------------------------------------------------------------

namespace Blueprint

/- What a document of fewer than 2^32 rows tells is in range. -/
theorem Spec.inRange_of_parse
    {file source : String}
    {spec : Spec}
    (hRows : (rows source.toList).length < UInt32.size)
    (h : parse file source = .ok spec) :
    spec.InRange := by
  intro l hPlace
  obtain ⟨line, hLine, rfl, _⟩ :=
    exists_line_of_mem_places h hPlace
  have hBelow :=
    number_lt_of_mem_linesFrom (List.mem_of_mem_tail hLine)
  change line.number < UInt32.size
  omega

end Blueprint

------------------------------------------------------------
-- Reading Back
------------------------------------------------------------

namespace Blueprint

/- The specification in the outcome of a reading as JSON. -/
def Spec.ofReading? (reading : Json) : Option Spec := do
  let entries ←
    reading.record? ["success", "spec", "errors"]
  Json.field? entries "spec" ofJson?

/- The specification that was read is read back. -/
theorem Spec.ofReading?_readingToJson
    {reading : Except (List Fault) Spec}
    (h : ∀ spec, reading = .ok spec → spec.InRange) :
    ofReading? (readingToJson reading) = reading.toOption := by
  cases reading with
  | error faults => rfl
  | ok spec =>
      have hRead := (reads (h spec rfl)).eq_some _ (.same _)
      simp [ofReading?, readingToJson, Json.record?,
        Json.field?, List.lookup_cons, hRead, Except.toOption]

/-
  A specification is read back from its JSON, also when
  objects hold further entries and when entries that are
  `null` are left out. The report on what is read back from
  the outcome of reading a document is the report on the
  document. Lines are numbers of 32 bits, so a document has
  fewer than 2^32 rows.
-/
theorem spec_reread :
    (∀ spec : Spec, spec.InRange →
      Spec.ofJson? spec.toJson = some spec ∧
        ∀ told, Json.Restates spec.toJson told →
          Spec.ofJson? told = some spec) ∧
    (∀ file source : String,
      (rows source.toList).length < UInt32.size →
        (Spec.ofReading?
          (Spec.readingToJson (Spec.parse file source))).map
            Spec.verify =
          (check file source).toOption) := by
  constructor
  · intro spec hRange
    have hReads := Spec.reads hRange
    exact ⟨hReads.eq_some _ (.same _), hReads.eq_some⟩
  · intro file source hRows
    rw [Spec.ofReading?_readingToJson, check]
    · cases Spec.parse file source <;> rfl
    · intro spec hParse
      exact Spec.inRange_of_parse hRows hParse

/- A specification with a rule that leaves out its action. -/
def ruleSpec : Spec :=
  ⟨"Desk", [], [], [],
    [⟨"close early", some (.plain "x > 1"), none, ⟨"d", 3⟩⟩],
    [], []⟩

/-
  Its JSON without the entry of the absent action, and with
  a note in the rule and another in the specification.
-/
def ruleSpecTold : Json :=
  .object
    [("note", .bool true),
     ("app_name", .string "Desk"),
     ("entities", .array []),
     ("screens", .array []),
     ("flows", .array []),
     ("rules", .array [.object
       [("description", .string "close early"),
        ("condition", .object
          [("kind", .string "plain"),
           ("text", .string "x > 1")]),
        ("note", .null),
        ("location", .object
          [("file", .string "d"), ("line", .integer 3)])]]),
     ("integrations", .array []),
     ("events", .array [])]

/- The JSON of the specification is told again by the other. -/
theorem restates_ruleSpecTold :
    Json.Restates ruleSpec.toJson ruleSpecTold := by
  apply Json.Restates.object
  refine .keep "app_name" (.same _) (.keep "entities" (.same _)
    (.keep "screens" (.same _) (.keep "flows" (.same _)
      (.keep "rules" (.array (.cons (.object ?_) .nil))
        (.keep "integrations" (.same _)
          (.keep "events" (.same _) .nil))))))
  exact .keep "description" (.same _)
    (.keep "condition" (.same _)
      (.leaveOut "action" (.keep "location" (.same _) .nil)))

/- A document that specifies it. -/
def ruleSource : String :=
  "app \"Desk\"\n\nrule \"close early\"\n  if x > 1\n"

/-
  The other JSON is read as the specification too, and the
  document is reported on alike before and after.
-/
theorem spec_reread_ruleSpec :
    ruleSpec.InRange ∧
      Json.Restates ruleSpec.toJson ruleSpecTold ∧
      Spec.ofJson? ruleSpecTold = some ruleSpec ∧
      Spec.parse "d" ruleSource = .ok ruleSpec ∧
      (Spec.ofReading?
        (Spec.readingToJson (Spec.parse "d" ruleSource))).map
          Spec.verify =
        some ruleSpec.verify := by
  have hRange : ruleSpec.InRange := by decide
  have hParse : Spec.parse "d" ruleSource = .ok ruleSpec := by
    rfl
  have hCheck :
      (check "d" ruleSource).toOption =
        some ruleSpec.verify := by
    rw [check, hParse]
    rfl
  have hRows :
      (rows ruleSource.toList).length < UInt32.size := by
    decide
  obtain ⟨hSpecs, hSources⟩ := spec_reread
  refine ⟨hRange, restates_ruleSpecTold, ?_, hParse, ?_⟩
  · exact (hSpecs ruleSpec hRange).2 ruleSpecTold
      restates_ruleSpecTold
  · rw [hSources "d" ruleSource hRows, hCheck]

end Blueprint
