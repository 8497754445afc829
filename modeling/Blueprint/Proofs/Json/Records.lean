import Blueprint.Proofs.Json.Restated
import Blueprint.Proofs.Places.Parts
import Blueprint.Spec.Json

/-
  What a specification is made of, written as JSON and read
  back, however the JSON is told again. A location is read
  back when its line is a number of 32 bits.

  Main definition:
    * `Location.InRange`

  Main statements:
    * `FieldType.reads`, `ScreenKind.reads`,
      `WidgetKind.reads`, `Condition.reads`
    * `Entity.reads`, `Screen.reads`, `Flow.reads`
    * `Rule.reads`, `Integration.reads`, `Event.reads`
-/

------------------------------------------------------------
-- Tagged Values
------------------------------------------------------------

namespace Blueprint

namespace Json

variable {α : Type}
variable {a : α}
variable {entries others : List (String × Json)}

/- The decoder of a tagged value, from that of each case. -/
def ofCases?
    (ofCase : String → Json → Option α)
    (value : Json) : Option α := do
  let (tag, content) ← value.tagged?
  ofCase tag content

/- A tagged value is read by the decoder of its case. -/
theorem reads_tagged
    {ofCase : String → Json → Option α}
    (tag : String)
    (hDistinct : (entries.map Prod.fst).Nodup)
    (hTag : entries.lookup "kind" = some (.string tag))
    (h : ∀ others, Supplies entries others →
      ofCase tag (.object others) = some a) :
    Reads (ofCases? ofCase) (.object entries) a := by
  apply reads_object hDistinct
  intro others hTold
  have hKind := hTold.field? "kind" hTag (reads_string tag)
  simp [ofCases?, tagged?, hKind, h others hTold]

/- A case without further entries is read by its tag. -/
theorem reads_ofTag
    {ofCase : String → Json → Option α}
    (tag : String)
    (h : ∀ others, ofCase tag (.object others) = some a) :
    Reads (ofCases? ofCase) (ofTag tag) a := by
  apply reads_tagged tag (by simp) rfl
  exact fun others _ => h others

/- A case with a text is read by its tag and its text. -/
theorem reads_ofTagged_string
    {ofCase : String → Json → Option α}
    {make : String → α}
    (tag key text : String)
    (hKey : key ≠ "kind")
    (h : ∀ content,
      ofCase tag content = (content.soleText? key).map make) :
    Reads (ofCases? ofCase)
      (ofTagged tag key (.string text)) (make text) := by
  apply reads_tagged tag (by simp [hKey.symm]) rfl
  intro others hTold
  have hText := hTold.field? key
    (by simp [List.lookup_cons, beq_false_of_ne hKey])
    (reads_string text)
  simp [h, soleText?, record?, hText]

end Json

namespace FieldType

theorem reads (t : FieldType) :
    Json.Reads ofJson? t.toJson t := by
  change Json.Reads (Json.ofCases? ofTagged?) t.toJson t
  cases t with
  | scalar s =>
      apply Json.reads_ofTag s.tag
      intro others
      cases s <;> rfl
  | enum values =>
      apply Json.reads_tagged "enum" (by simp) rfl
      intro others hTold
      have hValues := hTold.field? "values" rfl
        (Json.reads_ofStrings values)
      simp [ofTagged?, valuesOfJson?, Json.record?,
        Json.strings?, hValues]
  | relationship entity =>
      exact Json.reads_ofTagged_string "relationship" "entity"
        entity (by decide) fun _ => rfl
  | list entity =>
      exact Json.reads_ofTagged_string "list" "entity"
        entity (by decide) fun _ => rfl
  | ai prompt =>
      exact Json.reads_ofTagged_string "ai" "prompt"
        prompt (by decide) fun _ => rfl
  | computed expression =>
      exact Json.reads_ofTagged_string "computed" "expression"
        expression (by decide) fun _ => rfl
  | unrecognized raw =>
      exact Json.reads_ofTagged_string "unrecognized" "raw"
        raw (by decide) fun _ => rfl

end FieldType

namespace ScreenKind

theorem reads (k : ScreenKind) :
    Json.Reads ofJson? k.toJson k := by
  change Json.Reads (Json.ofCases? ofTagged?) k.toJson k
  cases k with
  | unrecognized raw =>
      exact Json.reads_ofTagged_string "unrecognized" "raw"
        raw (by decide) fun _ => rfl
  | _ => exact Json.reads_ofTag _ fun _ => rfl

end ScreenKind

namespace WidgetKind

theorem reads (k : WidgetKind) :
    Json.Reads ofJson? k.toJson k := by
  change Json.Reads (Json.ofCases? ofTagged?) k.toJson k
  cases k with
  | unrecognized raw =>
      exact Json.reads_ofTagged_string "unrecognized" "raw"
        raw (by decide) fun _ => rfl
  | _ => exact Json.reads_ofTag _ fun _ => rfl

end WidgetKind

namespace Condition

theorem reads (c : Condition) :
    Json.Reads ofJson? c.toJson c := by
  change Json.Reads (Json.ofCases? ofTagged?) c.toJson c
  cases c with
  | plain text =>
      exact Json.reads_ofTagged_string "plain" "text"
        text (by decide) fun _ => rfl
  | ai call =>
      apply Json.reads_tagged "ai" (by simp [AiCall.entries]) rfl
      intro others hTold
      have hInput := hTold.field? "input" rfl
        (Json.reads_string call.input)
      have hPrompt := hTold.field? "prompt" rfl
        (Json.reads_string call.prompt)
      have hExpected := hTold.field? "expected_output" rfl
        (Json.reads_string call.expectedOutput)
      simp [ofTagged?, AiCall.ofJson?, Json.record?, hInput,
        hPrompt, hExpected]

end Condition

end Blueprint

------------------------------------------------------------
-- Records
------------------------------------------------------------

namespace Blueprint

/- The line is a number of 32 bits. -/
def Location.InRange (l : Location) : Prop :=
  l.line < UInt32.size

instance (l : Location) : Decidable l.InRange :=
  inferInstanceAs (Decidable (l.line < UInt32.size))

theorem Location.reads
    {l : Location}
    (h : l.InRange) :
    Json.Reads ofJson? l.toJson l := by
  apply Json.reads_object (by simp)
  intro others hTold
  have hFile := hTold.field? "file" rfl
    (Json.reads_string l.file)
  have hLine := hTold.field? "line" rfl (Json.reads_nat32 h)
  simp [ofJson?, Json.record?, hFile, hLine]

theorem Modifiers.reads (ms : Modifiers) :
    Json.Reads ofJson? ms.toJson ms := by
  apply Json.reads_object (by simp)
  intro others hTold
  have hRequired := hTold.field? "required" rfl
    (Json.reads_bool ms.required)
  have hUnique := hTold.field? "unique" rfl
    (Json.reads_bool ms.unique)
  have hMin := hTold.optionalField? "min" rfl
    fun n _ => Json.reads_int64 n
  have hMax := hTold.optionalField? "max" rfl
    fun n _ => Json.reads_int64 n
  have hPattern := hTold.optionalField? "pattern" rfl
    fun text _ => Json.reads_string text
  have hDefault := hTold.optionalField? "default_value" rfl
    fun text _ => Json.reads_string text
  simp [ofJson?, Json.record?, hRequired, hUnique, hMin, hMax,
    hPattern, hDefault]

theorem Field.reads
    {f : Field}
    (h : f.location.InRange) :
    Json.Reads ofJson? f.toJson f := by
  apply Json.reads_object (by simp)
  intro others hTold
  have hName := hTold.field? "name" rfl
    (Json.reads_string f.name)
  have hType := hTold.field? "field_type" rfl f.type.reads
  have hModifiers := hTold.field? "modifiers" rfl
    f.modifiers.reads
  have hLocation := hTold.field? "location" rfl
    (Location.reads h)
  simp [ofJson?, Json.record?, hName, hType, hModifiers,
    hLocation]

theorem Entity.reads
    {e : Entity}
    (h : ∀ l ∈ e.places, l.InRange) :
    Json.Reads ofJson? e.toJson e := by
  apply Json.reads_object (by simp)
  intro others hTold
  have hName := hTold.field? "name" rfl
    (Json.reads_string e.name)
  have hFields := hTold.field? "fields" rfl
    (Json.reads_ofList fun f hField =>
      Field.reads (h _ (field_mem_places hField)))
  have hLocation := hTold.field? "location" rfl
    (Location.reads (h _ e.location_mem_places))
  simp [ofJson?, Json.record?, hName, hFields, hLocation]

theorem WizardStep.reads
    {s : WizardStep}
    (h : s.location.InRange) :
    Json.Reads ofJson? s.toJson s := by
  apply Json.reads_object (by simp)
  intro others hTold
  have hName := hTold.field? "name" rfl
    (Json.reads_string s.name)
  have hFields := hTold.field? "fields" rfl
    (Json.reads_ofStrings s.fields)
  have hLocation := hTold.field? "location" rfl
    (Location.reads h)
  simp [ofJson?, Json.record?, Json.strings?, hName, hFields,
    hLocation]

theorem Widget.reads
    {w : Widget}
    (h : w.location.InRange) :
    Json.Reads ofJson? w.toJson w := by
  apply Json.reads_object (by simp)
  intro others hTold
  have hLabel := hTold.field? "label" rfl
    (Json.reads_string w.label)
  have hKind := hTold.field? "kind" rfl w.kind.reads
  have hLocation := hTold.field? "location" rfl
    (Location.reads h)
  simp [ofJson?, Json.record?, hLabel, hKind, hLocation]

theorem Screen.reads
    {s : Screen}
    (h : ∀ l ∈ s.places, l.InRange) :
    Json.Reads ofJson? s.toJson s := by
  apply Json.reads_object (by simp)
  intro others hTold
  have hName := hTold.field? "name" rfl
    (Json.reads_string s.name)
  have hKind := hTold.field? "kind" rfl s.kind.reads
  have hEntity := hTold.optionalField? "entity" rfl
    fun text _ => Json.reads_string text
  have hFields := hTold.field? "fields" rfl
    (Json.reads_ofStrings s.fields)
  have hFilters := hTold.field? "filters" rfl
    (Json.reads_ofStrings s.filters)
  have hActions := hTold.field? "actions" rfl
    (Json.reads_ofStrings s.actions)
  have hPrimary := hTold.optionalField? "primary_action" rfl
    fun text _ => Json.reads_string text
  have hSteps := hTold.field? "steps" rfl
    (Json.reads_ofList fun step hStep =>
      WizardStep.reads (h _ (step_mem_places hStep)))
  have hWidgets := hTold.field? "widgets" rfl
    (Json.reads_ofList fun w hWidget =>
      Widget.reads (h _ (widget_mem_places hWidget)))
  have hLocation := hTold.field? "location" rfl
    (Location.reads (h _ s.location_mem_places))
  simp [ofJson?, Json.record?, Json.strings?, hName, hKind,
    hEntity, hFields, hFilters, hActions, hPrimary, hSteps,
    hWidgets, hLocation]

theorem FlowStep.reads
    {s : FlowStep}
    (h : s.location.InRange) :
    Json.Reads ofJson? s.toJson s := by
  apply Json.reads_object (by simp)
  intro others hTold
  have hOrder := hTold.field? "order" rfl
    (Json.reads_uint32 s.order)
  have hDescription := hTold.field? "description" rfl
    (Json.reads_string s.description)
  have hAi := hTold.field? "ai" rfl (Json.reads_bool s.ai)
  have hAction := hTold.optionalField? "action" rfl
    fun text _ => Json.reads_string text
  have hLocation := hTold.field? "location" rfl
    (Location.reads h)
  simp [ofJson?, Json.record?, hOrder, hDescription, hAi,
    hAction, hLocation]

theorem Flow.reads
    {f : Flow}
    (h : ∀ l ∈ f.places, l.InRange) :
    Json.Reads ofJson? f.toJson f := by
  apply Json.reads_object (by simp)
  intro others hTold
  have hName := hTold.field? "name" rfl
    (Json.reads_string f.name)
  have hSteps := hTold.field? "steps" rfl
    (Json.reads_ofList fun s hStep =>
      FlowStep.reads (h _ (step_mem_places hStep)))
  have hLocation := hTold.field? "location" rfl
    (Location.reads (h _ f.location_mem_places))
  simp [ofJson?, Json.record?, hName, hSteps, hLocation]

theorem Rule.reads
    {r : Rule}
    (h : r.location.InRange) :
    Json.Reads ofJson? r.toJson r := by
  apply Json.reads_object (by simp)
  intro others hTold
  have hDescription := hTold.field? "description" rfl
    (Json.reads_string r.description)
  have hCondition := hTold.optionalField? "condition" rfl
    fun c _ => c.reads
  have hAction := hTold.optionalField? "action" rfl
    fun text _ => Json.reads_string text
  have hLocation := hTold.field? "location" rfl
    (Location.reads h)
  simp [ofJson?, Json.record?, hDescription, hCondition,
    hAction, hLocation]

theorem Integration.reads
    {i : Integration}
    (h : i.location.InRange) :
    Json.Reads ofJson? i.toJson i := by
  apply Json.reads_object (by simp)
  intro others hTold
  have hName := hTold.field? "name" rfl
    (Json.reads_string i.name)
  have hEndpoint := hTold.optionalField? "endpoint" rfl
    fun text _ => Json.reads_string text
  have hPurpose := hTold.optionalField? "purpose" rfl
    fun text _ => Json.reads_string text
  have hLocation := hTold.field? "location" rfl
    (Location.reads h)
  simp [ofJson?, Json.record?, hName, hEndpoint, hPurpose,
    hLocation]

theorem Event.reads
    {e : Event}
    (h : e.location.InRange) :
    Json.Reads ofJson? e.toJson e := by
  apply Json.reads_object (by simp)
  intro others hTold
  have hName := hTold.field? "name" rfl
    (Json.reads_string e.name)
  have hFields := hTold.field? "fields" rfl
    (Json.reads_ofStrings e.fields)
  have hLocation := hTold.field? "location" rfl
    (Location.reads h)
  simp [ofJson?, Json.record?, Json.strings?, hName, hFields,
    hLocation]

end Blueprint
