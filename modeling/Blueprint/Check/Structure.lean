import Blueprint.Integration.Capability
import Blueprint.Symbols

/-
  Structural checks: every declaration is complete in itself
  and refers only to declared entities and fields.

  Main definitions:
    * `entityIssues`, `screenIssues`, `flowIssues`,
      `ruleIssues`, `integrationIssues`, `eventIssues`
    * `structureIssues`
-/

------------------------------------------------------------
-- Entities
------------------------------------------------------------

namespace Blueprint

open Text

/- A text of blanks only. -/
def isBlankString (s : String) : Bool :=
  isBlankText s.toList

/- The finding about the type of a field, if there is one. -/
def typeFinding?
    (table : SymbolTable)
    (entity : String)
    (f : Field) : Option Finding :=
  let unknownTarget? (target : String) :=
    if table.hasEntity target then
      none
    else
      some (.error (.fieldUnknownEntity entity f.name target))
  match f.type with
  | .unrecognized raw =>
      some (.error (.fieldInvalidType entity f.name raw))
  | .enum values =>
      if values.isEmpty then
        some (.error (.fieldEmptyEnum entity f.name))
      else
        none
  | .ai prompt =>
      if isBlankString prompt then
        some (.error (.fieldAiMissingPrompt entity f.name))
      else
        none
  | .computed expression =>
      if isBlankString expression then
        some (.error (.fieldEmptyComputed entity f.name))
      else
        none
  | .relationship target => unknownTarget? target
  | .list target => unknownTarget? target
  | .scalar _ => none

/- The finding about the bounds of a field, if there is one. -/
def boundFinding?
    (entity : String)
    (f : Field) : Option Finding :=
  match f.modifiers.min, f.modifiers.max with
  | some min, some max =>
      if max < min then
        some <| .error <|
          .fieldMinExceedsMax entity f.name min max
      else
        none
  | _, _ => none

def fieldIssues
    (table : SymbolTable)
    (entity : String)
    (f : Field) : List Issue :=
  ((typeFinding? table entity f).toList ++
    (boundFinding? entity f).toList).map
      fun finding => .of finding f.location

def entityIssues
    (table : SymbolTable)
    (e : Entity) : List Issue :=
  (if e.fields.isEmpty then
    [.of (.warning (.entityNoFields e.name)) e.location]
  else
    []) ++
  e.fields.flatMap (fieldIssues table e.name)

end Blueprint

------------------------------------------------------------
-- Screens
------------------------------------------------------------

namespace Blueprint

/- The finding about the kind of a screen, if there is one. -/
def kindFinding? (s : Screen) : Option Finding :=
  match s.kind with
  | .unrecognized raw =>
      some (.error (.screenInvalidKind s.name raw))
  | _ => none

/-
  The field names that a screen uses, with the places where
  it uses them.
-/
def usedFields (s : Screen) : List (String × Location) :=
  (s.fields ++ s.filters).map (·, s.location) ++
    s.steps.flatMap fun step =>
      step.fields.map (·, step.location)

/- The issues of the entity that a screen is bound to. -/
def bindingIssues
    (table : SymbolTable)
    (s : Screen) : List Issue :=
  match s.entity with
  | none => []
  | some entity =>
      if table.hasEntity entity then
        (usedFields s).filterMap fun (field, location) =>
          if table.hasField entity field then
            none
          else
            some (.of
              (.error (.screenUnknownField s.name field entity))
              location)
      else
        [.of (.error (.screenUnknownEntity s.name entity))
          s.location]

/- The finding about a screen without its main part. -/
def contentFinding? (s : Screen) : Option Finding :=
  match s.kind with
  | .wizard =>
      if s.steps.isEmpty then
        some (.error (.screenWizardNoSteps s.name))
      else
        none
  | .dashboard =>
      if s.widgets.isEmpty then
        some (.warning (.screenDashboardNoWidgets s.name))
      else
        none
  | _ => none

/- The issue of a widget on a screen, if there is one. -/
def widgetIssue?
    (screen : String)
    (w : Widget) : Option Issue :=
  match w.kind with
  | .unrecognized raw =>
      some (.of
        (.error (.screenInvalidWidgetKind w.label screen raw))
        w.location)
  | _ => none

def screenIssues
    (table : SymbolTable)
    (s : Screen) : List Issue :=
  (kindFinding? s).toList.map (.of · s.location) ++
    bindingIssues table s ++
    (contentFinding? s).toList.map (.of · s.location) ++
    s.widgets.filterMap (widgetIssue? s.name)

end Blueprint

------------------------------------------------------------
-- Flows
------------------------------------------------------------

namespace Blueprint

/-
  The first step that does not have the number of its place,
  with that number, when the steps are counted from
  `expected` on. The count has no bound here: one of 32 bits
  agrees with it in a flow of fewer than 2^32 steps.
-/
def firstMisnumbered?
    (expected : Nat) :
    List FlowStep → Option (FlowStep × Nat)
| [] => none
| step :: steps =>
    if step.order.toNat = expected then
      firstMisnumbered? (expected + 1) steps
    else
      some (step, expected)

/- An AI step does not say what to do. -/
def isEmptyAiStep (step : FlowStep) : Bool :=
  step.ai &&
    match step.action with
    | none => true
    | some action => isBlankString action

/- The issue of steps out of sequence, if there is one. -/
def sequenceIssue? (f : Flow) : Option Issue :=
  (firstMisnumbered? 1 f.steps).map fun (step, expected) =>
    .of
      (.warning (.flowNonSequential f.name step.order expected))
      step.location

/- The issue of AI steps that no integration can carry out. -/
def unservedIssue?
    (hasAi : Bool)
    (f : Flow) : Option Issue :=
  if hasAi then
    none
  else
    (f.steps.find? (·.ai)).map fun step =>
      .of (.warning (.flowAiWithoutIntegration f.name))
        step.location

def flowIssues
    (hasAi : Bool)
    (f : Flow) : List Issue :=
  if f.steps.isEmpty then
    [.of (.warning (.flowNoSteps f.name)) f.location]
  else
    (sequenceIssue? f).toList ++
      (f.steps.filter isEmptyAiStep).map (fun step =>
        .of (.error (.flowAiStepEmpty step.order f.name))
          step.location) ++
      (unservedIssue? hasAi f).toList

end Blueprint

------------------------------------------------------------
-- Rules
------------------------------------------------------------

namespace Blueprint

/- What a rule is called in messages. -/
def Rule.label (r : Rule) : String :=
  ruleLabel r.description r.location.line

/- The parts that a question to an AI lacks. -/
def missingParts (call : AiCall) : List String :=
  (if isBlankString call.input then ["input"] else []) ++
    (if isBlankString call.prompt then ["prompt"] else [])

/- The findings about a question to an AI in a rule. -/
def aiFindings
    (hasAi : Bool)
    (rule : String)
    (call : AiCall) : List Finding :=
  let missing := missingParts call
  (if missing.isEmpty then
    []
  else
    [.error (.ruleAiIncomplete rule missing)]) ++
  (if hasAi then
    []
  else
    [.warning (.ruleAiWithoutIntegration rule)])

def ruleFindings
    (hasAi : Bool)
    (r : Rule) : List Finding :=
  (if isBlankString r.description then
    [.error (.ruleMissingDescription r.label)]
  else
    []) ++
  (if r.condition.isNone && r.action.isNone then
    [.error (.ruleEmpty r.label)]
  else
    []) ++
  match r.aiCall? with
  | none => []
  | some call => aiFindings hasAi r.label call

def ruleIssues
    (hasAi : Bool)
    (r : Rule) : List Issue :=
  (ruleFindings hasAi r).map (.of · r.location)

end Blueprint

------------------------------------------------------------
-- Integrations and Events
------------------------------------------------------------

namespace Blueprint

/- The finding about an endpoint, if there is one. -/
def endpointFinding? (i : Integration) : Option Finding :=
  match i.endpoint with
  | none => none
  | some endpoint =>
      if isWellFormedEndpoint endpoint then
        none
      else
        some <| .error <|
          .integrationInvalidEndpoint i.name endpoint

def integrationIssues
    (integrations : List Integration) : List Issue :=
  (withFirst Integration.name integrations).flatMap
    fun (i, first) =>
      let duplicate := first.map fun f =>
        Finding.error
          (.integrationDuplicate i.name f.location.line)
      (duplicate.toList ++ (endpointFinding? i).toList).map
        (.of · i.location)

def eventIssues (events : List Event) : List Issue :=
  (withFirst Event.name events).flatMap fun (e, first) =>
    let duplicate := first.map fun f =>
      Finding.error (.eventDuplicate e.name f.location.line)
    let noFields :=
      if e.fields.isEmpty then
        [Finding.warning (.eventNoFields e.name)]
      else
        []
    (duplicate.toList ++ noFields).map (.of · e.location)

end Blueprint

------------------------------------------------------------
-- Specifications
------------------------------------------------------------

namespace Blueprint

/- Some integration of a specification can answer. -/
def Spec.hasAi (spec : Spec) : Bool :=
  spec.integrations.any isAiCapable

/- The structural issues of a specification. -/
def structureIssues
    (spec : Spec)
    (table : SymbolTable) : List Issue :=
  spec.entities.flatMap (entityIssues table) ++
    spec.screens.flatMap (screenIssues table) ++
    spec.flows.flatMap (flowIssues spec.hasAi) ++
    spec.rules.flatMap (ruleIssues spec.hasAi) ++
    integrationIssues spec.integrations ++
    eventIssues spec.events

end Blueprint
