import Blueprint.Text.Cut
import Blueprint.Text.Digit

/-
  Numeric addresses in place of domain names.

  Main definitions:
    * `ipv4Number?`
    * `endsInNumber`
    * `ipv4Address?`
    * `ipv6Pieces?`
-/

------------------------------------------------------------
-- Numbers
------------------------------------------------------------

namespace Blueprint

open Text

namespace Url

/-
  A part of a numeric address: hexadecimal after `0x`, octal
  after `0`, or decimal. Nothing after the mark means zero.
-/
def ipv4Number? : List Char → Option Nat
| [] => none
| '0' :: 'x' :: digits => readBase? 16 digits
| '0' :: 'X' :: digits => readBase? 16 digits
| '0' :: c :: digits => readBase? 8 (c :: digits)
| digits => readBase? 10 digits

end Url

end Blueprint

------------------------------------------------------------
-- Four-Part Addresses
------------------------------------------------------------

namespace Blueprint

open Text

namespace Url

/- The parts of a name, without an empty one at the end. -/
def addressParts (name : List Char) : List (List Char) :=
  let parts := splitWhere (· == '.') name
  if parts.getLast? = some [] then parts.dropLast else parts

/- The last part of a name is a number. -/
def endsInNumber (name : List Char) : Bool :=
  match (addressParts name).getLast? with
  | none => false
  | some part =>
      (!part.isEmpty && part.all Char.isDigit) ||
        (ipv4Number? part).isSome

/- How many values a number of bytes has. -/
def valuesOfBytes (count : Nat) : Nat :=
  Nat.pow 256 count

/-
  The address with these numbers: all but the last are one
  byte each, and the last fills the bytes that remain.
-/
def ipv4OfNumbers? (numbers : List Nat) : Option Nat :=
  match numbers.getLast? with
  | none => none
  | some last =>
      let bytes := numbers.dropLast
      let room := valuesOfBytes (4 - bytes.length)
      if bytes.length ≤ 3 && bytes.all (· < 256) &&
          last < room then
        some (bytes.foldl (fun n b => 256 * n + b) 0 * room +
          last)
      else
        none

/- The address that a name writes. -/
def ipv4Address? (name : List Char) : Option Nat := do
  let numbers ← (addressParts name).mapM ipv4Number?
  ipv4OfNumbers? numbers

end Url

end Blueprint

------------------------------------------------------------
-- Eight-Piece Addresses
------------------------------------------------------------

namespace Blueprint

open Text

namespace Url

/- A byte in decimal without leading zeros. -/
def decimalByte? (text : List Char) : Option Nat :=
  match text with
  | '0' :: _ :: _ => none
  | _ =>
      match readNat? text with
      | some n => if n < 256 then some n else none
      | none => none

/- The two pieces that four decimal bytes make up. -/
def embeddedIpv4?
    (text : List Char) : Option (List Nat) := do
  let bytes ← (splitWhere (· == '.') text).mapM decimalByte?
  match bytes with
  | [a, b, c, d] => some [256 * a + b, 256 * c + d]
  | _ => none

/- A piece of one to four hexadecimal digits. -/
def ipv6Piece? (text : List Char) : Option Nat :=
  if text.isEmpty || 4 < text.length then
    none
  else
    readBase? 16 text

/-
  The pieces between colons, the last of which may be four
  decimal bytes when `mayEmbed` holds.
-/
def ipv6Group? :
    List (List Char) → Option (List Nat)
| [] => some []
| [last] =>
    if last.contains '.' then
      embeddedIpv4? last
    else
      (ipv6Piece? last).map fun piece => [piece]
| text :: more => do
    let piece ← ipv6Piece? text
    let pieces ← ipv6Group? more
    return piece :: pieces

/- The pieces that a text without `::` writes. -/
def ipv6Side? (text : List Char) : Option (List Nat) :=
  if text.isEmpty then
    some []
  else
    ipv6Group? (splitWhere (· == ':') text)

/- No decimal bytes occur before the end of a text. -/
def isPlainSide (text : List Char) : Bool :=
  !text.contains '.'

/-
  The eight pieces of an address. A `::` stands for at least
  one piece of zero.
-/
def ipv6Pieces? (text : List Char) : Option (List Nat) :=
  match cutAround "::".toList text with
  | none => do
      let pieces ← ipv6Side? text
      if pieces.length = 8 then some pieces else none
  | some (before, after) => do
      let front ← ipv6Side? before
      let back ← ipv6Side? after
      if isPlainSide before && front.length + back.length < 8
      then
        let zeros := 8 - front.length - back.length
        some (front ++ List.replicate zeros 0 ++ back)
      else
        none

end Url

end Blueprint
