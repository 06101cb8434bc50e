import CallFlow.JavaScript.Lexical
import CallFlow.Tree.Node

/-!
# Parsers over characters

A parser reads from a cursor and either fails or yields a value and the cursor behind it. The cursor
stands right behind the last token, so that blanks and line breaks before the next one can still be
seen; every reader of a token passes over them first.
-/

namespace CallFlow.JavaScript

open CallFlow.Tree (Label Node)

/-- What is left to read. -/
structure Cursor where
  /-- The remaining characters. -/
  rest : List Char
  /-- Byte offset of the first of them. -/
  offset : Nat
  deriving Repr

namespace Cursor

/-- Passes over so many characters. -/
def advance : Nat → Cursor → Cursor
  | 0, c => c
  | _ + 1, ⟨[], o⟩ => ⟨[], o⟩
  | n + 1, ⟨c :: cs, o⟩ => advance n ⟨cs, o + c.utf8Size⟩

/-- Passes over blanks and comments. -/
def skipTrivia (c : Cursor) : Cursor :=
  let (rest, n) := Lexical.skipTrivia false .blank 0 c.rest
  ⟨rest, c.offset + n⟩

/-- Passes over blanks, comments and the markup marks that count as comments. -/
def skipTriviaBeforeStatement (c : Cursor) : Cursor :=
  let (rest, n) := Lexical.skipTrivia true .blank 0 c.rest
  ⟨rest, c.offset + n⟩

/-- The name that stands here, keywords included. -/
def word? (c : Cursor) : Option String :=
  match Lexical.nameLength c.rest with
  | 0 => none
  | n => some (String.ofList (c.rest.take n))

end Cursor

/-- A parser: fails, or yields a value and moves the cursor. -/
abbrev Parser := StateT Cursor Option

namespace Parser

/-- The cursor at the next token. -/
def ahead : Parser Cursor := do
  return (← get).skipTrivia

/-- Offset of the next token. -/
def tokenStart : Parser Nat := do
  return (← ahead).offset

/-- Offset right behind the last token. -/
def lastEnd : Parser Nat := do
  return (← get).offset

/-- The next characters, from the next token on. -/
def peek : Parser (List Char) := do
  return (← ahead).rest

/-- The next token if it is a name. -/
def word? : Parser (Option String) := do
  return (← ahead).word?

/-- The next token if it is an operator or bracket. -/
def punctuator? : Parser (Option String) := do
  return Lexical.punctuator? (← peek)

/-- Is this name the next token? -/
def lookingAtWord (w : String) : Parser Bool := do
  return (← word?) == some w

/-- Is this operator or bracket the next token? -/
def lookingAt (p : String) : Parser Bool := do
  return (← punctuator?) == some p

/-- Is the next token one of these operators or brackets? -/
def lookingAtAny (ps : List String) : Parser Bool := do
  return (← punctuator?).any ps.contains

/-- Is nothing left but blanks and comments? -/
def atEnd : Parser Bool := do
  return (← peek).isEmpty

/-- Passes over so many characters of the next token. -/
def consume (n : Nat) : Parser Unit := do
  set ((← ahead).advance n)

/-- Passes over the given operator or bracket if it is next. -/
def accept (p : String) : Parser Bool := do
  if ← lookingAt p then
    consume p.length
    return true
  else return false

/-- Passes over the given name if it is next. -/
def acceptWord (w : String) : Parser Bool := do
  if ← lookingAtWord w then
    consume w.length
    return true
  else return false

/-- Passes over the given operator or bracket, which must be next. -/
def expect (p : String) : Parser Unit := do
  guard (← accept p)

/-- Passes over the given name, which must be next. -/
def expectWord (w : String) : Parser Unit := do
  guard (← acceptWord w)

/-- The value of a test on what follows; the cursor stays. -/
def lookahead (p : Parser Bool) : Parser Bool := do
  let c ← get
  return ((p.run c).map (·.1)).getD false

/-- The result of `p`, or nothing and no move if it fails. -/
def optional? {α : Type} (p : Parser α) : Parser (Option α) := fun c =>
  match p c with
  | some (a, c') => some (some a, c')
  | none => some (none, c)

/-- Runs `p` until it yields nothing. The bound only serves to end a run that reads nothing. -/
def manyUpTo {α : Type} (p : Parser (Option α)) : Nat → Parser (List α)
  | 0 => failure
  | n + 1 => do
    match ← p with
    | none => return []
    | some a => return a :: (← manyUpTo p n)

/-- Runs `p` until it yields nothing. -/
def many {α : Type} (p : Parser (Option α)) : Parser (List α) := do
  manyUpTo p ((← get).rest.length + 2)

/-- Grows a value as long as `step` yields a larger one. -/
def growUpTo {α : Type} (step : α → Parser (Option α)) : Nat → α → Parser α
  | 0, _ => failure
  | n + 1, a => do
    match ← step a with
    | none => return a
    | some b => growUpTo step n b

/-- Grows a value as long as `step` yields a larger one. -/
def grow {α : Type} (step : α → Parser (Option α)) (a : α) : Parser α := do
  growUpTo step ((← get).rest.length + 2) a

/-- The items of a list up to the closing bracket, which is passed over. Commas divide the items;
empty places are allowed and left out. -/
def itemsUntil (close : String) (item : Parser Node) : Parser (List Node) :=
  many do
    let _ ← many do
      if ← accept "," then return some () else return none
    if ← accept close then return none
    let n ← item
    guard ((← lookingAt ",") || (← lookingAt close))
    return some n

/-! ## Omitted semicolons -/

/-- Would a semicolon be supplied right here? `keyword` holds behind a bare keyword. -/
def suppliesSemicolon (keyword : Bool) : Parser Bool := do
  return Lexical.suppliesSemicolon keyword .sameLine (← get).rest

/-- Ends a statement, with a semicolon written or supplied. -/
def semicolon (keyword : Bool) : Parser Unit := do
  if ← accept ";" then return ()
  guard (← suppliesSemicolon keyword)

/-! ## Building nodes -/

/-- A node from `start` to the last token read. -/
def finish (kind : String) (start : Nat) (children : List Node) : Parser Node := do
  return .mk { kind := kind, start := start, stop := ← lastEnd } children

/-- A node without children that takes the next `n` characters. -/
def leaf (kind : String) (n : Nat) : Parser Node := do
  let start ← tokenStart
  consume n
  finish kind start []

/-- The next name, keywords included, as a node of the given kind. -/
def anyName (kind : String) : Parser Node := do
  match ← word? with
  | some w => leaf kind w.length
  | none => failure

/-- The next name, which must not be reserved. The word `undefined` makes a kind of its own. -/
def identifier : Parser Node := do
  match ← word? with
  | some w =>
    guard !(Lexical.isReserved w)
    leaf (if w == "undefined" then "undefined" else "identifier") w.length
  | none => failure

/-- Can the next token be the name of a variable? -/
def lookingAtIdentifier : Parser Bool := do
  return (← word?).any (!Lexical.isReserved ·)

end Parser

/-! ## The grammar's recursion -/

/-- What surrounds an expression. -/
structure Context where
  /-- Is `in` an operator here? It is not in the head of a loop. -/
  allowsIn : Bool := true
  /-- Does the expression end a statement, so that a line break may end it? -/
  endsStatement : Bool := false
  deriving Repr, DecidableEq

/-- The parts of the grammar that contain one another. -/
inductive Goal where
  /-- A statement or declaration. -/
  | statement
  /-- Expressions divided by commas. -/
  | expressions (context : Context)
  /-- One expression, commas excluded. -/
  | assignment (context : Context)
  /-- Operands joined by binary operators of at least the given strength. -/
  | operation (context : Context) (strength : Nat)
  /-- An operand with its unary operators. -/
  | unary (context : Context)
  /-- An operand of `new`, with `new` in front. -/
  | construction (context : Context)
  /-- What a declaration or parameter binds. -/
  | binding
  /-- An element of markup. -/
  | element
  deriving Repr, DecidableEq

/-- Parsers for all parts of the grammar: what a production uses where it contains another part. -/
abbrev Grammar := Goal → Parser Node

end CallFlow.JavaScript
