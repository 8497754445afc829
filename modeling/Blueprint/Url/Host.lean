import Blueprint.Url.Address
import Blueprint.Url.Domain

/-
  Hosts: what an address names as the machine to talk to.

  Main definitions:
    * `Host`
    * `percentDecode`
    * `Host.ofText?`
    * `Host.ofOpaqueText?`
-/

------------------------------------------------------------
-- Hosts
------------------------------------------------------------

namespace Blueprint

namespace Url

/-
  A domain name, a numeric address of one number, or one of
  eight pieces. A name that is not resolved may be empty.
-/
inductive Host where
| domain (name : List Char)
| ipv4 (address : Nat)
| ipv6 (pieces : List Nat)
deriving DecidableEq, Repr

end Url

end Blueprint

------------------------------------------------------------
-- Percent Decoding
------------------------------------------------------------

namespace Blueprint

namespace Url

/- The byte that two hexadecimal digits write. -/
def hexByte? (high low : UInt8) : Option UInt8 := do
  let h ← Text.hexDigit? (Char.ofNat high.toNat)
  let l ← Text.hexDigit? (Char.ofNat low.toNat)
  return UInt8.ofNat (16 * h + l)

/- Replace every percent sign and two digits by their byte. -/
def percentDecode : List UInt8 → List UInt8
| 37 :: high :: low :: rest =>
    match hexByte? high low with
    | some byte => byte :: percentDecode rest
    | none => 37 :: percentDecode (high :: low :: rest)
| byte :: rest => byte :: percentDecode rest
| [] => []

/- The decoded text, if it is valid UTF-8. -/
def percentDecoded?
    (text : List Char) : Option (List Char) :=
  let bytes := (String.ofList text).toUTF8.toList
  let decoded := ByteArray.mk (percentDecode bytes).toArray
  (String.fromUTF8? decoded).map String.toList

end Url

end Blueprint

------------------------------------------------------------
-- Reading Hosts
------------------------------------------------------------

namespace Blueprint

open Text

namespace Url

namespace Host

/- An address in square brackets. -/
def ofBracketed? (rest : List Char) : Option Host := do
  let inner ← stripEnd [']'] rest
  let pieces ← ipv6Pieces? inner
  return .ipv6 pieces

/- A domain name, or the numeric address that it writes. -/
def ofDomain? (text : List Char) : Option Host := do
  let decoded ← percentDecoded? text
  let labels ← domainLabels? decoded
  let name := joinWith ['.'] labels
  if name.isEmpty then
    none
  else if endsInNumber name then
    (ipv4Address? name).map .ipv4
  else
    some (.domain name)

/- The host of an address with a scheme that resolves names. -/
def ofText? : List Char → Option Host
| '[' :: rest => ofBracketed? rest
| text => ofDomain? text

/- The characters that no host can hold. -/
def isForbidden (c : Char) : Bool :=
  "\x00\t\n\r #/:<>?@[\\]^|".toList.contains c

/- The host of an address with any other scheme. -/
def ofOpaqueText? : List Char → Option Host
| '[' :: rest => ofBracketed? rest
| text =>
    if text.any isForbidden then
      none
    else
      some (.domain text)

end Host

end Url

end Blueprint
