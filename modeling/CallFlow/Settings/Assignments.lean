import CallFlow.Schema.Reader

/-!
# Files of assignments

A file of assignments has a line `name = value` for each variable. Blank lines and comments are
skipped, `export` may stand in front of a name, values may stand in quotes of either kind, and a
line that is none of this is ignored. Within a value, a name in braces behind a dollar sign stands
for the value of that variable.
-/

namespace CallFlow.Assignments

/-- Blanks within a line. -/
def isSpace (c : Char) : Bool :=
  Schema.isBlank c && c != '\n' && c != '\r' || ('\x1c' ≤ c && c ≤ '\x1f')

/-- Blanks and line ends. -/
def isSpaceOrEnd (c : Char) : Bool :=
  isSpace c || c == '\n' || c == '\r'

def isLineEnd (c : Char) : Bool := c == '\n' || c == '\r'

/-- Drops the rest of a line with its end. -/
def dropLine (cs : List Char) : List Char :=
  match cs.dropWhile (!isLineEnd ·) with
  | _ :: rest => rest
  | [] => []

/-- Drops `export` in front of a name. -/
def dropExport (cs : List Char) : List Char :=
  let word := "export".toList
  if word.isPrefixOf cs then
    match cs.drop word.length with
    | c :: rest => if isSpace c then rest.dropWhile isSpace else cs
    | [] => cs
  else cs

/-- Reads a name, which may stand in single quotes. -/
def readName? (cs : List Char) : Option (List Char × List Char) :=
  match cs with
  | '\x27' :: rest =>
    let name := rest.takeWhile (· != '\x27')
    match rest.drop name.length with
    | _ :: after => if name.isEmpty then none else some (name, after)
    | [] => none
  | _ =>
    let name := cs.takeWhile fun c => !(c == '=' || c == '#' || isSpaceOrEnd c)
    if name.isEmpty then none else some (name, cs.drop name.length)

/-- Reads up to a closing quote. A quote behind a backslash does not close, unless there is no other:
`close` is what is read if the last such quote does. -/
def readQuoted? (quote : Char) (close : Option (List Char × List Char)) (text : List Char) :
    List Char → Option (List Char × List Char)
  | [] => close
  | '\\' :: c :: rest =>
    if c == quote then
      readQuoted? quote (some (('\\' :: text).reverse, rest)) (c :: '\\' :: text) rest
    else readQuoted? quote close ('\\' :: text) (c :: rest)
  | c :: rest =>
    if c == quote then some (text.reverse, rest) else readQuoted? quote close (c :: text) rest

/-- The character that an escape in double quotes stands for. -/
def doubleEscape? : Char → Option Char
  | '\\' => some '\\'
  | '\x27' => some '\x27'
  | '\x22' => some '\x22'
  | 'a' => some '\x07'
  | 'b' => some '\x08'
  | 'f' => some '\x0c'
  | 'n' => some '\n'
  | 'r' => some '\r'
  | 't' => some '\t'
  | 'v' => some '\x0b'
  | _ => none

/-- The character that an escape in single quotes stands for. -/
def singleEscape? : Char → Option Char
  | '\\' => some '\\'
  | '\x27' => some '\x27'
  | _ => none

/-- Replaces escapes. -/
def unescape (escape? : Char → Option Char) : List Char → List Char
  | [] => []
  | '\\' :: c :: rest =>
    match escape? c with
    | some d => d :: unescape escape? rest
    | none => '\\' :: unescape escape? (c :: rest)
  | c :: rest => c :: unescape escape? rest

/-- Cuts a comment off a value: blanks and a number sign, and all that follows. -/
def cutComment : List Char → List Char
  | [] => []
  | c :: rest =>
    if isSpace c && (rest.dropWhile isSpace).head? == some '#' then []
    else c :: cutComment rest

/-- Drops blanks at the end. -/
def dropEndBlanks (cs : List Char) : List Char :=
  (cs.reverse.dropWhile isSpace).reverse

/-- Reads a value. -/
def readValue? (cs : List Char) : Option (List Char × List Char) :=
  match cs with
  | '\x27' :: rest => (readQuoted? '\x27' none [] rest).map fun (v, r) => (unescape singleEscape? v, r)
  | '\x22' :: rest => (readQuoted? '\x22' none [] rest).map fun (v, r) => (unescape doubleEscape? v, r)
  | _ =>
    let line := cs.takeWhile (!isLineEnd ·)
    some (dropEndBlanks (cutComment line), cs.drop line.length)

/-- Reads the end of a line, with a comment in front of it. -/
def readEnd? (cs : List Char) : Option (List Char) :=
  let cs :=
    match cs.dropWhile isSpace with
    | '#' :: rest => rest.dropWhile (!isLineEnd ·)
    | rest => rest
  match cs with
  | [] => some []
  | '\r' :: '\n' :: rest => some rest
  | c :: rest => if isLineEnd c then some rest else none

/-- A variable and its value, which may be lacking. -/
abbrev Assignment := List Char × Option (List Char)

/-- Reads one line behind its leading blanks: an assignment, a name alone, or a comment. What is none
of these is dropped up to the end of the line on which it goes wrong. -/
def readLine (cs : List Char) : Option Assignment × List Char :=
  let cs := dropExport cs
  if cs.head? == some '#' then (none, dropLine cs)
  else
    match readName? cs with
    | none => (none, dropLine cs)
    | some (name, rest) =>
      match rest.dropWhile isSpace with
      | '=' :: rest =>
        let rest := rest.dropWhile isSpace
        match readValue? rest with
        | none => (none, dropLine rest)
        | some (value, rest) => finish (name, some value) rest
      | rest => finish (name, none) rest
where
  finish (a : Assignment) (rest : List Char) : Option Assignment × List Char :=
    match readEnd? rest with
    | some rest => (some a, rest)
    | none => (none, dropLine rest)

/-- Reads all lines, at most as many as `fuel`. -/
def readLines : (fuel : Nat) → List Char → List Assignment
  | 0, _ => []
  | fuel + 1, cs =>
    match cs.dropWhile isSpaceOrEnd with
    | [] => []
    | start =>
      let (a, rest) := readLine start
      a.toList ++ readLines fuel rest

/-! ## Variables within values -/

/-- A name in braces with the text that stands in for a missing value, and what follows. -/
def readReference? (cs : List Char) : Option (List Char × List Char × List Char) :=
  let name := cs.takeWhile fun c => c != '\x7d' && c != ':'
  match cs.drop name.length with
  | '\x7d' :: rest => some (name, [], rest)
  | ':' :: '-' :: rest =>
    let fallback := rest.takeWhile (· != '\x7d')
    match rest.drop fallback.length with
    | _ :: after => some (name, fallback, after)
    | [] => none
  | _ => none

/-- Replaces references by values; `fuel` bounds the number of characters looked at. -/
def expand (lookup : List Char → Option (List Char)) : (fuel : Nat) → List Char → List Char
  | 0, cs => cs
  | _ + 1, [] => []
  | fuel + 1, c :: cs =>
    match c, cs with
    | '$', '\x7b' :: rest =>
      match readReference? rest with
      | some (name, fallback, after) => (lookup name).getD fallback ++ expand lookup fuel after
      | none => c :: expand lookup fuel cs
    | _, _ => c :: expand lookup fuel cs

/-- Gives every variable its value, with earlier ones and then the environment to refer to. -/
def evaluate (environment : List (String × String)) (found : List (String × Option String)) :
    List Assignment → List (String × Option String)
  | [] => found
  | (name, value) :: rest =>
    let lookup (n : List Char) : Option (List Char) :=
      match found.lookup (String.ofList n) with
      | some v => some ((v.map String.toList).getD [])
      | none => (environment.lookup (String.ofList n)).map String.toList
    let value := value.map fun v => String.ofList (expand lookup (v.length + 1) v)
    evaluate environment (Json.setMember (String.ofList name) value found) rest

/-- The variables of a file, the last assignment of each. -/
def parse (environment : List (String × String)) (text : List Char) :
    List (String × Option String) :=
  evaluate environment [] (readLines (text.length + 1) text)

end CallFlow.Assignments
