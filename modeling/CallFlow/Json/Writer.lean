import CallFlow.Json.Basic
import CallFlow.Number.Decimal

/-!
# Writing JSON

Two layouts: everything on one line, and one item a line with an indent of two blanks a level. Only
quotes, backslashes and control characters are escaped.
-/

namespace CallFlow.Json

/-- Fractional numbers keep a point or an exponent; one is used from 10^16 on and below 10^-5. -/
def numberStyle : Decimal.Style := ⟨-5, 16⟩

/-- A hexadecimal digit. -/
def hexDigit (n : Nat) : Char :=
  if n < 10 then Char.ofNat (48 + n) else Char.ofNat (87 + n)

/-- A character inside a string. -/
def escapeChar (c : Char) : List Char :=
  if c == '"' then ['\\', '"']
  else if c == '\\' then ['\\', '\\']
  else if c.toNat < 0x20 then
    match c.toNat with
    | 8 => ['\\', 'b']
    | 9 => ['\\', 't']
    | 10 => ['\\', 'n']
    | 12 => ['\\', 'f']
    | 13 => ['\\', 'r']
    | n => ['\\', 'u', '0', '0', hexDigit (n / 16), hexDigit (n % 16)]
  else [c]

/-- A text in quotes. -/
def quote (s : String) : String :=
  "\"" ++ String.ofList (s.toList.flatMap escapeChar) ++ "\""

/-- A value without parts. -/
def writeAtom : Json → String
  | null => "null"
  | bool b => if b then "true" else "false"
  | int n => toString n
  | real x => Decimal.writeShortest numberStyle x
  | nonFinite w => w
  | string s => quote s
  | array _ => "[]"
  | object _ => "\x7b\x7d"

mutual

/-- A value on one line. -/
def compress : Json → String
  | array items => "[" ++ compressItems items ++ "]"
  | object members => "\x7b" ++ compressMembers members ++ "\x7d"
  | v => writeAtom v

/-- Items divided by commas. -/
def compressItems : List Json → String
  | [] => ""
  | [v] => compress v
  | v :: vs => compress v ++ "," ++ compressItems vs

/-- Members divided by commas. -/
def compressMembers : List (String × Json) → String
  | [] => ""
  | [(k, v)] => quote k ++ ":" ++ compress v
  | (k, v) :: rest => quote k ++ ":" ++ compress v ++ "," ++ compressMembers rest

end

/-- The start of a line at a level of nesting. -/
def indentation (level : Nat) : String :=
  "\n" ++ String.ofList (List.replicate (2 * level) ' ')

mutual

/-- A value over several lines, nested at the given level. -/
def prettyAt (level : Nat) : Json → String
  | array [] => "[]"
  | object [] => "\x7b\x7d"
  | array items => "[" ++ prettyItems (level + 1) items ++ indentation level ++ "]"
  | object members => "\x7b" ++ prettyMembers (level + 1) members ++ indentation level ++ "\x7d"
  | v => writeAtom v

/-- Items, each on a line of its own. -/
def prettyItems (level : Nat) : List Json → String
  | [] => ""
  | [v] => indentation level ++ prettyAt level v
  | v :: vs => indentation level ++ prettyAt level v ++ "," ++ prettyItems level vs

/-- Members, each on a line of its own. -/
def prettyMembers (level : Nat) : List (String × Json) → String
  | [] => ""
  | [(k, v)] => indentation level ++ quote k ++ ": " ++ prettyAt level v
  | (k, v) :: rest =>
    indentation level ++ quote k ++ ": " ++ prettyAt level v ++ "," ++ prettyMembers level rest

end

/-- A value over several lines. -/
def pretty (v : Json) : String := prettyAt 0 v

end CallFlow.Json
