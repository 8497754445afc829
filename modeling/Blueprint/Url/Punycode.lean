import Blueprint.Text.Cut

/-
  Punycode: the spelling of a label of a domain name in
  ASCII. The ASCII characters of the label come first, and
  the others follow as a series of variable-length integers
  that tell which character to insert where.

  Main definitions:
    * `adaptBias`
    * `PunycodeState`, `PunycodeState.next?`
    * `decodePunycode?`
-/

------------------------------------------------------------
-- Digits and Bias
------------------------------------------------------------

namespace Blueprint

namespace Url

/- The value of a digit: letters first, then numerals. -/
def punycodeDigit? (c : Char) : Option Nat :=
  if c.isLower then
    some (c.toNat - 97)
  else if c.isUpper then
    some (c.toNat - 65)
  else if c.isDigit then
    some (c.toNat - 22)
  else
    none

/- Scale a large delta down, counting in steps of 36. -/
def scaleDelta (delta steps : Nat) : Nat × Nat :=
  if 455 < delta then
    scaleDelta (delta / 35) (steps + 36)
  else
    (delta, steps)
termination_by delta
decreasing_by omega

/-
  The bias after an insertion that makes the label `length`
  characters long.
-/
def adaptBias
    (delta length : Nat)
    (isFirst : Bool) : Nat :=
  let halved := if isFirst then delta / 700 else delta / 2
  let (scaled, steps) :=
    scaleDelta (halved + halved / length) 0
  steps + 36 * scaled / (scaled + 38)

/- The threshold of a digit at the place counted by `k`. -/
def punycodeThreshold (k bias : Nat) : Nat :=
  if k ≤ bias then
    1
  else if bias + 26 ≤ k then
    26
  else
    k - bias

end Url

end Blueprint

------------------------------------------------------------
-- Decoding
------------------------------------------------------------

namespace Blueprint

namespace Url

/-
  The state of decoding: the label so far, the code point
  and the position of the next insertion, the bias, and how
  far the integer being read has got.
-/
structure PunycodeState where
  label : List Char
  code : Nat
  position : Nat
  bias : Nat
  start : Nat
  weight : Nat
  place : Nat
deriving DecidableEq, Repr

namespace PunycodeState

/- The state before the first insertion into `label`. -/
def initial (label : List Char) : PunycodeState where
  label := label
  code := 128
  position := 0
  bias := 72
  start := 0
  weight := 1
  place := 36

/- Insert the next character, if it is one. -/
def insert? (s : PunycodeState) : Option PunycodeState :=
  let length := s.label.length + 1
  let code := s.code + s.position / length
  let position := s.position % length
  if code.isValidChar then
    some {
      label := s.label.take position ++
        Char.ofNat code :: s.label.drop position
      code := code
      position := position + 1
      bias := adaptBias (s.position - s.start) length
        (s.start == 0)
      start := position + 1
      weight := 1
      place := 36 }
  else
    none

/- The state after one more digit. -/
def next?
    (s : PunycodeState)
    (digit : Nat) : Option PunycodeState :=
  let moved :=
    { s with position := s.position + digit * s.weight }
  let threshold := punycodeThreshold s.place s.bias
  if digit < threshold then
    moved.insert?
  else
    some { moved with
      weight := s.weight * (36 - threshold)
      place := s.place + 36 }

/- The state after all digits, between two integers. -/
def run? (s : PunycodeState) :
    List Char → Option PunycodeState
| [] => if s.place = 36 then some s else none
| c :: rest =>
    match punycodeDigit? c with
    | none => none
    | some digit =>
        match s.next? digit with
        | none => none
        | some t => t.run? rest

end PunycodeState

/- The parts before and after the last hyphen. -/
def splitLastHyphen
    (text : List Char) : List Char × List Char :=
  match Text.cutAt (· == '-') text.reverse with
  | some (after, before) => (before.reverse, after.reverse)
  | none => ([], text)

/- A text of ASCII characters only. -/
def isAsciiText (text : List Char) : Bool :=
  text.all fun c => decide (c.toNat < 0x80)

/- The label that a text spells, which has to be ASCII. -/
def decodePunycode?
    (text : List Char) : Option (List Char) :=
  let (basic, digits) := splitLastHyphen text
  if !isAsciiText text then
    none
  else if basic.isEmpty && text.head? = some '-' then
    none
  else
    ((PunycodeState.initial basic).run? digits).map (·.label)

end Url

end Blueprint
