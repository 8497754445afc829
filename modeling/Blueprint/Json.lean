/-
  JSON values and their two layouts: on one line, and spread
  over lines with two spaces of indentation a level.

  Objects keep their entries in the order they were built,
  and both layouts write them in that order.

  Main definitions:
    * `Json`
    * `Json.quote`
    * `Json.compact`
    * `Json.pretty`
-/

------------------------------------------------------------
-- Values
------------------------------------------------------------

namespace Blueprint

/-
  A JSON value. A number with a fraction is its decimal
  mantissa and the number of its decimal places.
-/
inductive Json where
| null
| bool (value : Bool)
| integer (value : Int)
| decimal (mantissa : Int) (places : Nat)
| string (value : String)
| array (items : List Json)
| object (entries : List (String × Json))
deriving Repr

namespace Json

/- An optional value, with `null` for its absence. -/
def ofOption
    {α : Type}
    (encode : α → Json) : Option α → Json
| none => .null
| some a => encode a

def ofList
    {α : Type}
    (encode : α → Json)
    (items : List α) : Json :=
  .array (items.map encode)

def ofStrings (items : List String) : Json :=
  ofList .string items

/- A natural number. -/
def ofNat (n : Nat) : Json :=
  .integer n

end Json

end Blueprint

------------------------------------------------------------
-- Scalars
------------------------------------------------------------

namespace Blueprint

namespace Json

/- A hexadecimal digit, in lowercase. -/
def hexDigit (n : Nat) : Char :=
  if n < 10 then
    Char.ofNat (48 + n)
  else
    Char.ofNat (87 + n)

/-
  A character between quotes: quotes, backslashes and
  control characters are escaped, all else stands for itself.
-/
def escapeChar (c : Char) : List Char :=
  match c with
  | '"' => ['\\', '"']
  | '\\' => ['\\', '\\']
  | '\n' => ['\\', 'n']
  | '\r' => ['\\', 'r']
  | '\t' => ['\\', 't']
  | '\x08' => ['\\', 'b']
  | '\x0c' => ['\\', 'f']
  | c =>
      if c.toNat < 32 then
        ['\\', 'u', '0', '0', hexDigit (c.toNat / 16),
         hexDigit (c.toNat % 16)]
      else
        [c]

/- A string in quotes. -/
def quote (s : String) : String :=
  String.ofList
    ('"' :: (s.toList.flatMap escapeChar ++ ['"']))

/- A decimal number in positional notation. -/
def decimalText
    (mantissa : Int)
    (places : Nat) : String :=
  let digits := toString mantissa.natAbs
  let padded :=
    String.ofList (List.replicate (places + 1) '0') ++ digits
  let all := padded.toList
  let whole := all.take (all.length - places)
  let fraction := all.drop (all.length - places)
  let significant := whole.dropWhile (· == '0')
  let shown := if significant.isEmpty then ['0'] else significant
  let sign := if mantissa < 0 then ['-'] else []
  String.ofList (sign ++ shown ++ '.' :: fraction)

end Json

end Blueprint

------------------------------------------------------------
-- Layouts
------------------------------------------------------------

namespace Blueprint

namespace Json

/- Pieces with a separator between neighbours. -/
def joinPieces (separator : String) (pieces : List String) :
    String :=
  String.intercalate separator pieces

mutual

/- A value on one line, without blanks. -/
def compact : Json → String
| .null => "null"
| .bool value => if value then "true" else "false"
| .integer value => toString value
| .decimal mantissa places => decimalText mantissa places
| .string value => quote value
| .array items =>
    "[" ++ joinPieces "," (compactItems items) ++ "]"
| .object entries =>
    "\x7b" ++ joinPieces "," (compactEntries entries) ++ "\x7d"

/- The items of an array, each on one line. -/
def compactItems : List Json → List String
| [] => []
| item :: items => item.compact :: compactItems items

/- The entries of an object, each on one line. -/
def compactEntries : List (String × Json) → List String
| [] => []
| (key, value) :: entries =>
    (quote key ++ ":" ++ value.compact) ::
      compactEntries entries

end

/- A line break followed by `depth` levels of indentation. -/
def breakLine (depth : Nat) : String :=
  "\n" ++ String.ofList (List.replicate (2 * depth) ' ')

/- Pieces on lines of their own between two brackets. -/
def bracketLines
    (opening closing : String)
    (depth : Nat)
    (pieces : List String) : String :=
  if pieces.isEmpty then
    opening ++ closing
  else
    opening ++ breakLine (depth + 1) ++
      joinPieces ("," ++ breakLine (depth + 1)) pieces ++
      breakLine depth ++ closing

mutual

/- A value spread over lines, at a level of indentation. -/
def prettyAt (depth : Nat) : Json → String
| .null => "null"
| .bool value => if value then "true" else "false"
| .integer value => toString value
| .decimal mantissa places => decimalText mantissa places
| .string value => quote value
| .array items =>
    bracketLines "[" "]" depth (prettyItems (depth + 1) items)
| .object entries =>
    bracketLines "\x7b" "\x7d" depth
      (prettyEntries (depth + 1) entries)

/- The items of an array, at a level of indentation. -/
def prettyItems (depth : Nat) : List Json → List String
| [] => []
| item :: items =>
    item.prettyAt depth :: prettyItems depth items

/- The entries of an object, at a level of indentation. -/
def prettyEntries (depth : Nat) :
    List (String × Json) → List String
| [] => []
| (key, value) :: entries =>
    (quote key ++ ": " ++ value.prettyAt depth) ::
      prettyEntries depth entries

end

/- A value spread over lines. -/
def pretty (value : Json) : String :=
  value.prettyAt 0

end Json

end Blueprint
