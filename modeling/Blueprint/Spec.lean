import Blueprint.Entity
import Blueprint.Event
import Blueprint.Flow
import Blueprint.Integration
import Blueprint.Rule
import Blueprint.Screen

/-
  Specifications: what a whole document declares, and the
  reading of a document.

  A document is a header and a list of blocks. Every block
  is read by itself, so one faulty block does not hide the
  faults of the others.

  Every document gives a specification or the faults of its
  lines. No reader breaks off in between, so the internal
  fault of line zero that would tell of this is left out.

  Main definitions:
    * `Spec`, `Spec.entity?`
    * `Declaration`, `Declaration.ofBlock`
    * `readHeader`
    * `Spec.ofLines`
    * `Spec.parse`
-/

------------------------------------------------------------
-- Specifications
------------------------------------------------------------

namespace Blueprint

/- What a document declares, kind by kind in its order. -/
structure Spec where
  appName : String
  entities : List Entity
  screens : List Screen
  flows : List Flow
  rules : List Rule
  integrations : List Integration
  events : List Event
deriving DecidableEq, Repr

namespace Spec

/- The first entity of a name. -/
def entity?
    (spec : Spec)
    (name : String) : Option Entity :=
  spec.entities.find? fun e => e.name == name

end Spec

end Blueprint

------------------------------------------------------------
-- Declarations
------------------------------------------------------------

namespace Blueprint

open Text

/- A declaration of any kind. -/
inductive Declaration where
| entity (e : Entity)
| screen (s : Screen)
| flow (f : Flow)
| rule (r : Rule)
| integration (i : Integration)
| event (e : Event)
deriving DecidableEq, Repr

namespace Declaration

/- The declaration that a keyword opens. -/
def ofKeyword
    (file : String)
    (rest : List Char)
    (block : Block) :
    Keyword → Except Fault Declaration
| .entity => (Entity.ofBlock file rest block).map .entity
| .screen => (Screen.ofBlock file rest block).map .screen
| .flow => (Flow.ofBlock file rest block).map .flow
| .rule => (Rule.ofBlock file rest block).map .rule
| .integration =>
    (Integration.ofBlock file rest block).map .integration
| .event => (Event.ofBlock file rest block).map .event

/- The declaration that a block writes. -/
def ofBlock
    (file : String)
    (block : Block) : Except Fault Declaration :=
  let head := block.head
  if 0 < head.indent then
    head.blame file (.error (.strayLine head.content))
  else
    let (wordText, rest) := splitKeyword head.text
    let word := String.ofList wordText
    match Keyword.ofWord? word with
    | some keyword => ofKeyword file rest block keyword
    | none =>
        if word = "app" then
          head.blame file (.error .secondHeader)
        else
          head.blame file (.error (.unknownKeyword word))

end Declaration

namespace Spec

/- Put a declaration in front of those of its kind. -/
def cons
    (d : Declaration)
    (spec : Spec) : Spec :=
  match d with
  | .entity e => { spec with entities := e :: spec.entities }
  | .screen s => { spec with screens := s :: spec.screens }
  | .flow f => { spec with flows := f :: spec.flows }
  | .rule r => { spec with rules := r :: spec.rules }
  | .integration i =>
      { spec with integrations := i :: spec.integrations }
  | .event e => { spec with events := e :: spec.events }

/- The specification of a list of declarations. -/
def ofDeclarations
    (appName : String)
    (declarations : List Declaration) : Spec :=
  declarations.foldr cons ⟨appName, [], [], [], [], [], []⟩

end Spec

end Blueprint

------------------------------------------------------------
-- Reading Documents
------------------------------------------------------------

namespace Blueprint

open Text

/- The name in `app "name"`. -/
def headerName? (text : List Char) : Option (List Char) := do
  let afterApp ← stripStart "app".toList text
  let afterBlanks ← skipBlanks? afterApp
  let (name, after) ← quoted? afterBlanks
  if after.isEmpty then some name else none

/- The name of the app, and the lines after the header. -/
def readHeader
    (file : String) :
    List Line → Except Fault (String × List Line)
| [] => .error ⟨⟨file, 1⟩, .emptyDocument⟩
| first :: lines =>
    match headerName? first.text with
    | none =>
        first.blame file
          (.error (.missingHeader first.content))
    | some name =>
        if first.indent = 0 then
          .ok (String.ofList name, lines)
        else
          first.blame file
            (.error (.missingHeader first.content))

/- All results, or else all faults. -/
def collect {α : Type} :
    List (Except Fault α) → Except (List Fault) (List α)
| [] => .ok []
| result :: results =>
    match result, collect results with
    | .ok a, .ok as => .ok (a :: as)
    | .ok _, .error faults => .error faults
    | .error fault, .ok _ => .error [fault]
    | .error fault, .error faults =>
        .error (fault :: faults)

namespace Spec

/- The specification that lines write, or all their faults. -/
def ofLines
    (file : String)
    (lines : List Line) : Except (List Fault) Spec :=
  match readHeader file lines with
  | .error fault => .error [fault]
  | .ok (appName, rest) =>
      let results :=
        (blocks 0 rest).map (Declaration.ofBlock file)
      (collect results).map (ofDeclarations appName)

/- The name of a document that was given none. -/
def unnamedFile : String :=
  "<input>"

/- The specification that the document `file` writes. -/
def parse
    (file source : String) : Except (List Fault) Spec :=
  ofLines file (significantLines source)

end Spec

end Blueprint
