import CallFlow.Json.Basic
import CallFlow.Number.Decimal

/-!
# Reading JSON

A reader of JSON text. Recursion is bounded by the length of the text: every nested call stands
behind a character that has been read.
-/

namespace CallFlow.Json

/-- Blanks between tokens. -/
def isBlank (c : Char) : Bool :=
  c == ' ' || c == '\t' || c == '\n' || c == '\r'

def skipBlanks (cs : List Char) : List Char :=
  cs.dropWhile isBlank

/-- The value of a hexadecimal digit. -/
def hexValue? (c : Char) : Option Nat :=
  if c.isDigit then some (c.toNat - 48)
  else if 'a' ≤ c && c ≤ 'f' then some (c.toNat - 87)
  else if 'A' ≤ c && c ≤ 'F' then some (c.toNat - 55)
  else none

/-- The value of four hexadecimal digits. -/
def hex4? (a b c d : Char) : Option Nat := do
  return ((← hexValue? a) * 16 + (← hexValue? b)) * 256 + (← hexValue? c) * 16 + (← hexValue? d)

/-- The character of a simple escape. -/
def escaped? : Char → Option Char
  | '"' => some '"'
  | '\\' => some '\\'
  | '/' => some '/'
  | 'b' => some (Char.ofNat 8)
  | 'f' => some (Char.ofNat 12)
  | 'n' => some '\n'
  | 'r' => some '\r'
  | 't' => some '\t'
  | _ => none

/-- Is this the first half of a pair that spells one character? -/
def isHighHalf (n : Nat) : Bool := 0xD800 ≤ n && n ≤ 0xDBFF

/-- Is this the second half of such a pair? -/
def isLowHalf (n : Nat) : Bool := 0xDC00 ≤ n && n ≤ 0xDFFF

/-- The character of an escape by number; a half without its partner becomes U+FFFD. -/
def charOfEscape (n : Nat) : Char :=
  if isHighHalf n || isLowHalf n then Char.ofNat 0xFFFD else Char.ofNat n

/-- The characters of a string behind its opening quote, and what follows the closing one. `text`
holds those read so far, the last first. -/
def readString (text : List Char) : List Char → Option (List Char × List Char)
  | [] => none
  | '"' :: rest => some (text.reverse, rest)
  | '\\' :: 'u' :: a :: b :: c :: d :: '\\' :: 'u' :: e :: f :: g :: h :: rest =>
    match hex4? a b c d, hex4? e f g h with
    | some m, some n =>
      if isHighHalf m && isLowHalf n then
        readString (Char.ofNat (0x10000 + (m - 0xD800) * 0x400 + (n - 0xDC00)) :: text) rest
      else readString (charOfEscape m :: text) ('\\' :: 'u' :: e :: f :: g :: h :: rest)
    | some m, none => readString (charOfEscape m :: text) ('\\' :: 'u' :: e :: f :: g :: h :: rest)
    | none, _ => none
  | '\\' :: 'u' :: a :: b :: c :: d :: rest =>
    match hex4? a b c d with
    | some m => readString (charOfEscape m :: text) rest
    | none => none
  | '\\' :: c :: rest =>
    match escaped? c with
    | some d => readString (d :: text) rest
    | none => none
  | c :: rest => if c.toNat < 0x20 then none else readString (c :: text) rest

/-- A number and what follows it. Superfluous leading zeros are no part of one. -/
def readNumber (cs : List Char) : Option (Json × List Char) :=
  let (negative, body) :=
    match cs with
    | '-' :: r => (true, r)
    | r => (false, r)
  let (whole, afterWhole) :=
    match body with
    | '0' :: r => (['0'], r)
    | r => Decimal.spanDigits r
  if whole.isEmpty then none
  else
    let fraction :=
      match afterWhole with
      | '.' :: r => (Decimal.spanDigits r).1
      | _ => []
    let afterFraction := if fraction.isEmpty then afterWhole else afterWhole.drop (1 + fraction.length)
    match Decimal.readExponent? afterFraction with
    | some (e, rest) =>
      if fraction.isEmpty && rest.length == afterFraction.length then
        let n : Int := Decimal.valueOf whole
        some (int (if negative then -n else n), rest)
      else some (real (Decimal.ofParts negative whole fraction e), rest)
    | none =>
      if fraction.isEmpty then
        let n : Int := Decimal.valueOf whole
        some (int (if negative then -n else n), afterFraction)
      else some (real (Decimal.ofParts negative whole fraction 0), afterFraction)

/-- The words that are values, longest first where one begins another. -/
def words : List (List Char × Json) :=
  [("null".toList, null), ("true".toList, bool true), ("false".toList, bool false),
    ("NaN".toList, nonFinite "NaN"), ("Infinity".toList, nonFinite "Infinity"),
    ("-Infinity".toList, nonFinite "-Infinity")]

/-- A word that is a value, and what follows it. -/
def readWord (cs : List Char) : Option (Json × List Char) :=
  words.findSome? fun (w, v) => if w.isPrefixOf cs then some (v, cs.drop w.length) else none

mutual

/-- A value and what follows it. -/
def readValue : Nat → List Char → Option (Json × List Char)
  | 0, _ => none
  | fuel + 1, cs =>
    match skipBlanks cs with
    | '"' :: r => (readString [] r).map fun (s, rest) => (string (String.ofList s), rest)
    | '[' :: r =>
      match skipBlanks r with
      | ']' :: rest => some (array [], rest)
      | _ => (readItems fuel [] r).map fun (items, rest) => (array items, rest)
    | '\x7b' :: r =>
      match skipBlanks r with
      | '\x7d' :: rest => some (object [], rest)
      | _ => (readMembers fuel [] r).map fun (members, rest) => (object (mergeMembers members), rest)
    | r => (readWord r).or (readNumber r)

/-- The items of an array, and what follows its closing bracket. -/
def readItems : Nat → List Json → List Char → Option (List Json × List Char)
  | 0, _, _ => none
  | fuel + 1, items, cs =>
    match readValue fuel cs with
    | none => none
    | some (v, rest) =>
      match skipBlanks rest with
      | ',' :: r => readItems fuel (v :: items) r
      | ']' :: r => some ((v :: items).reverse, r)
      | _ => none

/-- The members of an object, and what follows its closing brace. -/
def readMembers :
    Nat → List (String × Json) → List Char → Option (List (String × Json) × List Char)
  | 0, _, _ => none
  | fuel + 1, members, cs =>
    match skipBlanks cs with
    | '"' :: r =>
      match readString [] r with
      | none => none
      | some (key, afterKey) =>
        match skipBlanks afterKey with
        | ':' :: r =>
          match readValue fuel r with
          | none => none
          | some (v, rest) =>
            let members := (String.ofList key, v) :: members
            match skipBlanks rest with
            | ',' :: r => readMembers fuel members r
            | '\x7d' :: r => some (members.reverse, r)
            | _ => none
        | _ => none
    | _ => none

end

/-- Reads a text that holds one value and nothing else. -/
def parse? (text : String) : Option Json :=
  let cs := text.toList
  match readValue (2 * cs.length + 2) cs with
  | some (v, rest) => if (skipBlanks rest).isEmpty then some v else none
  | none => none

end CallFlow.Json
