/-
  The keywords that open the declarations of a document.

  Main definitions:
    * `Keyword`
    * `Keyword.word`
    * `Keyword.ofWord?`

  Main statement:
    * `Keyword.ofWord?_word`
-/

------------------------------------------------------------
-- Keywords
------------------------------------------------------------

namespace Blueprint

/- The kinds of declarations below the header. -/
inductive Keyword where
| entity
| screen
| flow
| rule
| integration
| event
deriving DecidableEq, Repr

namespace Keyword

/- The word that a keyword is written with. -/
def word : Keyword → String
| .entity => "entity"
| .screen => "screen"
| .flow => "flow"
| .rule => "rule"
| .integration => "integration"
| .event => "event"

def ofWord? : String → Option Keyword
| "entity" => some .entity
| "screen" => some .screen
| "flow" => some .flow
| "rule" => some .rule
| "integration" => some .integration
| "event" => some .event
| _ => none

/- Every keyword is read back from its word. -/
theorem ofWord?_word (k : Keyword) :
    ofWord? k.word = some k := by
  cases k <;> rfl

end Keyword

end Blueprint
