import Blueprint.Source.Keyword
import Blueprint.Source.Location

/-
  The faults that keep a document from being read: what is
  wrong, at which line, and how it is worded.

  Main definitions:
    * `Cause`
    * `Cause.message`
    * `Fault`
    * `Fault.render`
-/

------------------------------------------------------------
-- Causes
------------------------------------------------------------

namespace Blueprint

/- What is wrong with a line of a document. -/
inductive Cause where
| emptyDocument
| missingHeader (content : String)
| strayLine (content : String)
| secondHeader
| unknownKeyword (word : String)
| missingName (keyword : Keyword)
| invalidName (keyword : Keyword) (text : String)
| unevenBody (keyword : Keyword) (content : String)
| notAList (text : String)
| notAField (content : String)
| invalidFieldName (name : String)
| missingType (field : String)
| emptyModifier (field : String)
| unknownModifier (name field : String)
| invalidBound (text key field : String)
| missingScreenKind (screen : String)
| unevenScreen (screen content : String)
| notAProperty (content : String)
| unexpectedNested (key : String)
| unexpectedValue (key : String)
| unknownProperty (keyword : Keyword) (key : String)
| notAWizardStep (content : String)
| notAWidget (content : String)
| notAFlowStep (content : String)
| stepOutOfRange (digits : String)
| secondRuleLine
| notARuleLine (content : String)
| notAnEventField (content : String)
deriving DecidableEq, Repr

namespace Cause

/- The wording of a cause. -/
def message : Cause → String
| .emptyDocument =>
    "expected 'app \"<name>\"' declaration, found empty input"
| .missingHeader content =>
    "expected 'app \"<name>\"' as the first declaration, " ++
      s!"got '{content}'"
| .strayLine content =>
    s!"unexpected indented line '{content}' outside of a " ++
      "declaration"
| .secondHeader =>
    "duplicate 'app' declaration"
| .unknownKeyword word =>
    s!"unknown declaration '{word}': expected entity, " ++
      "screen, flow, rule, integration or event"
| .missingName keyword =>
    keyword.word ++ " declaration is missing a name"
| .invalidName keyword text =>
    "invalid " ++ keyword.word ++
      s!" name '{text}': use an identifier or a quoted string"
| .unevenBody keyword content =>
    "inconsistent indentation in " ++ keyword.word ++
      s!" body: '{content}'"
| .notAList text =>
    s!"expected a bracketed list, got '{text}'"
| .notAField content =>
    s!"expected 'name: type', got '{content}'"
| .invalidFieldName name =>
    s!"invalid field name '{name}'"
| .missingType field =>
    s!"field '{field}' is missing a type"
| .emptyModifier field =>
    s!"empty modifier on field '{field}'"
| .unknownModifier name field =>
    s!"unknown modifier '{name}' on field '{field}'"
| .invalidBound text key field =>
    s!"invalid integer '{text}' for '{key}' on field " ++
      s!"'{field}'"
| .missingScreenKind screen =>
    s!"screen '{screen}' missing 'kind'"
| .unevenScreen screen content =>
    s!"unexpected indentation in screen '{screen}': " ++
      s!"'{content}'"
| .notAProperty content =>
    s!"expected 'property: value', got '{content}'"
| .unexpectedNested key =>
    s!"property '{key}' does not take a nested block"
| .unexpectedValue key =>
    s!"'{key}:' opens a nested block and takes no inline " ++
      "value"
| .unknownProperty keyword key =>
    "unknown " ++ keyword.word ++ s!" property '{key}'"
| .notAWizardStep content =>
    s!"expected '\"step name\" → [fields]', got '{content}'"
| .notAWidget content =>
    s!"expected '\"label\" (kind)', got '{content}'"
| .notAFlowStep content =>
    "expected a numbered step 'N. description', " ++
      s!"got '{content}'"
| .stepOutOfRange digits =>
    s!"step number '{digits}' is out of range"
| .secondRuleLine =>
    "a rule takes a single 'if <condition> → <action>' line"
| .notARuleLine content =>
    "expected 'if <condition> → <action>', " ++
      s!"got '{content}'"
| .notAnEventField content =>
    s!"expected a field name, got '{content}'"

end Cause

end Blueprint

------------------------------------------------------------
-- Faults
------------------------------------------------------------

namespace Blueprint

/- A cause and the line of the document that shows it. -/
structure Fault where
  location : Location
  cause : Cause
deriving DecidableEq, Repr

namespace Fault

/- The fault as `file:line: message`. -/
def render (fault : Fault) : String :=
  fault.location.render ++ ": " ++ fault.cause.message

end Fault

end Blueprint
