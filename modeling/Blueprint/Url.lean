import Blueprint.Url.Host

/-
  Absolute addresses, as far as their scheme and their host
  are concerned.

  Blanks and control characters around an address and tabs
  and line breaks inside it are ignored. A scheme that
  resolves names takes any number of slashes or backslashes
  before its host; for other schemes there is a host only
  after two slashes.

  Main definitions:
    * `Url`
    * `Url.parse?`
-/

------------------------------------------------------------
-- Schemes
------------------------------------------------------------

namespace Blueprint

open Text

/- The scheme of an address and its host, if it has one. -/
structure Url where
  scheme : String
  host : Option Url.Host
deriving DecidableEq, Repr

namespace Url

/- The schemes that resolve names, files apart. -/
def specialSchemes : List String :=
  ["http", "https", "ws", "wss", "ftp"]

/- A character of a scheme after its first letter. -/
def isSchemeChar (c : Char) : Bool :=
  c.isAlphanum || c == '+' || c == '-' || c == '.'

/- The scheme in lowercase and the text after its colon. -/
def splitScheme?
    (text : List Char) : Option (String × List Char) := do
  let (name, rest) ← cutAt (· == ':') text
  if name.head?.any Char.isAlpha && name.all isSchemeChar then
    some (String.ofList (asciiLower name), rest)
  else
    none
where
  asciiLower (name : List Char) : List Char :=
    name.map Char.toLower

/- A character that is ignored inside an address. -/
def isIgnored (c : Char) : Bool :=
  c == '\t' || c == '\n' || c == '\r'

/- A character that is ignored around an address. -/
def isOuterBlank (c : Char) : Bool :=
  decide (c.toNat ≤ 0x20)

/- The characters of an address that count. -/
def relevantText (text : List Char) : List Char :=
  let inner := (text.dropWhile isOuterBlank).reverse
  let trimmed := (inner.dropWhile isOuterBlank).reverse
  trimmed.filter fun c => !isIgnored c

end Url

end Blueprint

------------------------------------------------------------
-- Authorities
------------------------------------------------------------

namespace Blueprint

open Text

namespace Url

/- A slash, also one written backwards. -/
def isSlash (c : Char) : Bool :=
  c == '/' || c == '\\'

/-
  A character that ends the part of an address with the
  host. A backslash does so for special schemes only.
-/
def endsAuthority
    (special : Bool)
    (c : Char) : Bool :=
  c == '/' || c == '?' || c == '#' || (special && c == '\\')

/-
  The user information before the last at sign, if there is
  one, and what follows it.
-/
def splitUser
    (authority : List Char) :
    Option (List Char) × List Char :=
  match cutAt (· == '@') authority.reverse with
  | none => (none, authority)
  | some (host, user) => (some user.reverse, host.reverse)

/-
  The host and what follows it from the first colon on that
  is not inside square brackets.
-/
def splitPort
    (bracketed : Bool) :
    List Char → List Char × List Char
| [] => ([], [])
| c :: rest =>
    if c = ':' && !bracketed then
      ([], c :: rest)
    else
      let inside :=
        if c = '[' then true
        else if c = ']' then false
        else bracketed
      let (host, tail) := splitPort inside rest
      (c :: host, tail)

/-
  Ports are at most 65535 in decimal and may be empty. A
  backslash ends one like the end of the authority does.
-/
def isPort (text : List Char) : Bool :=
  let digits := text.takeWhile fun c => c != '\\'
  digits.all Char.isDigit && digitsValue digits ≤ 65535

/- What follows a host is nothing, or a colon and digits. -/
def isPortPart : List Char → Bool
| [] => true
| _ :: digits => isPort digits

/- The user information names a user or a password. -/
def namesUser : Option (List Char) → Bool
| none => false
| some user => !user.isEmpty && user != [':']

/-
  The host in front of which only an at sign stands is
  missing if the address goes on right after that sign.
-/
def isBareUser
    (user : Option (List Char))
    (host : List Char)
    (after : List Char) : Bool :=
  user == some [] && host.isEmpty && !after.isEmpty

/- The host of a text that starts with an authority. -/
def authorityHost?
    (special : Bool)
    (text : List Char) : Option (Option Host) :=
  let inAuthority := fun c => !endsAuthority special c
  let authority := text.takeWhile inAuthority
  let after := text.dropWhile inAuthority
  let (user, hostAndPort) := splitUser authority
  let (hostText, portText) := splitPort false hostAndPort
  if isBareUser user hostAndPort after ||
      !isPortPart portText then
    none
  else if special then
    if hostText.isEmpty then
      none
    else
      (Host.ofText? hostText).map some
  else if hostText.isEmpty then
    if portText.isEmpty && !namesUser user then
      some none
    else
      none
  else
    (Host.ofOpaqueText? hostText).map some

end Url

end Blueprint

------------------------------------------------------------
-- Files
------------------------------------------------------------

namespace Blueprint

open Text

namespace Url

/- A letter and a colon or a bar: the name of a drive. -/
def isDriveLetter : List Char → Bool
| [letter, mark] =>
    letter.isAlpha && (mark == ':' || mark == '|')
| _ => false

/- The first segment of a path after its slash. -/
def firstSegment (path : List Char) : List Char :=
  (path.drop 1).takeWhile fun c =>
    !endsAuthority true c

/-
  The host of a file, for a text that follows two slashes. A
  drive letter is no host, and in front of a drive letter or
  on the local machine there is none.
-/
def fileHost? (text : List Char) : Option (Option Host) :=
  let inHost := fun c => !endsAuthority true c
  let hostText := text.takeWhile inHost
  let path := text.dropWhile inHost
  if hostText.isEmpty || isDriveLetter hostText then
    some none
  else
    (Host.ofText? hostText).map fun host =>
      if host = .domain "localhost".toList ||
          isDriveLetter (firstSegment path) then
        none
      else
        some host

end Url

end Blueprint

------------------------------------------------------------
-- Addresses
------------------------------------------------------------

namespace Blueprint

open Text

namespace Url

/- The host of the text after `scheme:`. -/
def hostAfter?
    (scheme : String)
    (rest : List Char) : Option (Option Host) :=
  if scheme = "file" then
    match rest with
    | a :: b :: text =>
        if isSlash a && isSlash b then
          fileHost? text
        else
          some none
    | _ => some none
  else if specialSchemes.contains scheme then
    authorityHost? true (rest.dropWhile isSlash)
  else
    match stripStart "//".toList rest with
    | some text => authorityHost? false text
    | none => some none

/-
  The absolute address that a text writes. It stands for a
  reader of addresses that is no subject of this library: no
  result uses more of it than that it is a function of the
  text, so all of them hold for every such reader.
-/
def parse? (text : String) : Option Url := do
  let (scheme, rest) ← splitScheme? (relevantText text.toList)
  let host ← hostAfter? scheme rest
  return ⟨scheme, host⟩

end Url

end Blueprint
