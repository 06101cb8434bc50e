import CallFlow.JavaScript.Statement
import CallFlow.Number.Natural

/-!
# Programs

The productions are tied together with a bound on how deeply they may nest; the bound is computed
from the length of the text, which is more than any text can use, since every few levels of nesting
take a character. What cannot be read as a statement is gathered into error nodes, so every text has
a tree.
-/

namespace CallFlow.JavaScript

open CallFlow.Tree (Node)
open CallFlow.JavaScript.Parser

/-- The production of each part of the grammar. -/
def produce (g : Grammar) : Grammar
  | .statement => statement g
  | .expressions ctx => expressions g ctx
  | .assignment ctx => assignment g ctx
  | .operation ctx least => operation g ctx least
  | .unary ctx => unary g ctx
  | .construction ctx => construction g ctx
  | .binding => binding g
  | .element => element g

/-- The grammar with at most `depth` productions inside one another. -/
def grammar : Nat → Grammar
  | 0, _ => failure
  | depth + 1, goal => produce (grammar depth) goal

/-- Enough depth for any text of so many characters. -/
def depthFor (length : Nat) : Nat :=
  16 * (length + 4)

/-- Passes over one token of any kind: a name, or else a single character. -/
def skipToken : Parser Unit := do
  match ← word? with
  | some w => consume w.length
  | none => consume 1

/-- Tokens that begin no statement, up to the next one that does or the end of the text. -/
def errorNode (g : Grammar) : Parser Node := do
  let start ← tokenStart
  skipToken
  let _ ← many do
    if ← atEnd then return none
    let recovered ← lookahead do
      let _ ← g .statement
      return true
    if recovered then return none
    skipToken
    return some ()
  finish "ERROR" start []

/-- The next statement, or the next stretch that holds none; nothing at the end of the text. -/
def programItem (g : Grammar) : Parser (Option Node) := do
  if (← get).skipTriviaBeforeStatement.rest.isEmpty then return none
  match ← optional? (g .statement) with
  | some s => return some s
  | none => return some (← errorNode g)

/-- The first line if it names an interpreter. -/
def interpreterLine : Parser (List Node) := do
  match (← get).rest with
  | '#' :: '!' :: _ =>
    return [← leaf "hash_bang_line" (Lexical.runLength (fun c => !Lexical.isBreak c) (← get).rest)]
  | _ => return []

/-- The statements of a whole text. -/
def programItems (g : Grammar) : Parser (List Node) := do
  let first ← interpreterLine
  return first ++ (← many (programItem g))

/-- The syntax tree of a text. -/
def parse (text : String) : Node :=
  let cs := text.toList
  let items := ((programItems (grammar (depthFor cs.length))).run ⟨cs, 0⟩).map (·.1)
  let stop := total (cs.map Char.utf8Size)
  .mk { kind := "program", start := 0, stop := stop } (items.getD [])

end CallFlow.JavaScript
