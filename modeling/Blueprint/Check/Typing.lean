import Blueprint.Issue
import Blueprint.Prose.Reference
import Blueprint.TypeEnv

/-
  Typing checks: forms show fields that a form can edit, and
  AI conditions ask about declared fields.

  Main definitions:
    * `formIssues`
    * `inputIssue?`
    * `typingIssues`
-/

------------------------------------------------------------
-- Forms
------------------------------------------------------------

namespace Blueprint

/- The finding about a field on a form, if there is one. -/
def formFieldFinding?
    (screen entity field : String)
    (tags : List (String × TypeTag)) : Option Finding :=
  match tags.lookup field with
  | some (.listRef target _) =>
      some <| .warning <|
        .typeListOnForm screen entity field target
  | some (.aiDerived _ _) =>
      some (.info (.typeAiFieldOnForm screen entity field))
  | _ => none

/- The issues of the fields on a form for a known entity. -/
def formIssues
    (env : TypeEnv)
    (s : Screen) : List Issue :=
  match s.kind, s.entity with
  | .form, some entity =>
      match env.fieldsOf? entity with
      | none => []
      | some tags =>
          s.fields.filterMap fun field =>
            (formFieldFinding? s.name entity field tags).map
              (.of · s.location)
  | _, _ => []

end Blueprint

------------------------------------------------------------
-- AI Inputs
------------------------------------------------------------

namespace Blueprint

open Text

/- An input written as `entity.field` with some entity. -/
def isDotted (input : String) : Bool :=
  match cutAt (· == '.') input.toList with
  | none => false
  | some (entity, _) => !isBlankText entity

/-
  The finding about an input that refers to an entity and
  perhaps to a field of it.
-/
def referenceFinding?
    (env : TypeEnv)
    (rule input : String)
    (reference : Reference) : Option Finding :=
  match reference.entity with
  | none => none
  | some entity =>
      match env.fieldNames? entity with
      | none =>
          some <| .error <|
            .typeUnknownRuleEntity rule input entity
      | some known =>
          match reference.field with
          | none => none
          | some field =>
              if known.contains field then
                none
              else
                some <| .warning <|
                  .typeUnknownRuleField rule input entity
                    field known

/- The issue of the input of an AI condition. -/
def inputIssue?
    (env : TypeEnv)
    (r : Rule) : Option Issue :=
  match r.aiCall? with
  | none => none
  | some call =>
      if isDotted call.input then
        let reference :=
          Reference.ofText env.entityNames call.input
        (referenceFinding? env r.description call.input
          reference).map (.of · r.location)
      else
        none

/- The typing issues of a specification. -/
def typingIssues
    (spec : Spec)
    (env : TypeEnv) : List Issue :=
  spec.screens.flatMap (formIssues env) ++
    spec.rules.filterMap (inputIssue? env)

end Blueprint
