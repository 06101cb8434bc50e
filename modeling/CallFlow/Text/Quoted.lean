import CallFlow.Text.Printable

/-!
# Quoted text

Text in quotes on one line: single quotes, or double quotes if the text has single quotes and no
double ones. What cannot be shown as it is becomes an escape.
-/

namespace CallFlow.Text.Quoted

/-- A hexadecimal digit. -/
def hexDigit (n : Nat) : Char :=
  if n < 10 then Char.ofNat (48 + n) else Char.ofNat (87 + n)

/-- So many hexadecimal digits of a number, leading zeros included. -/
def hex : Nat → Nat → List Char
  | 0, _ => []
  | k + 1, n => hex k (n / 16) ++ [hexDigit (n % 16)]

/-- A character between the given quotes. -/
def encodeChar (quote c : Char) : List Char :=
  if c == quote || c == '\\' then ['\\', c]
  else if c == '\n' then ['\\', 'n']
  else if c == '\r' then ['\\', 'r']
  else if c == '\t' then ['\\', 't']
  else if isPrintable c then [c]
  else
    let n := c.toNat
    if n < 0x100 then '\\' :: 'x' :: hex 2 n
    else if n < 0x10000 then '\\' :: 'u' :: hex 4 n
    else '\\' :: 'U' :: hex 8 n

/-- The quotes that a text is put in. -/
def quoteFor (cs : List Char) : Char :=
  if cs.contains '\x27' && !cs.contains '\x22' then '\x22' else '\x27'

/-- A text in quotes. -/
def encode (s : String) : String :=
  let cs := s.toList
  let q := quoteFor cs
  String.ofList ([q] ++ cs.flatMap (encodeChar q) ++ [q])

end CallFlow.Text.Quoted
