import CallFlow.JavaScript.Markup

/-!
# Expressions

Operands, operators and functions written as values. A parenthesised list is read as expressions
first and turned into parameters if an arrow follows; a literal turns into a pattern if it is
assigned to.
-/

namespace CallFlow.JavaScript

open CallFlow.Tree (Node)
open CallFlow.JavaScript.Parser

/-! ## Operands -/

/-- Template text with its substitutions, in back quotes. -/
def templateLiteral (g : Grammar) : Parser Node := do
  let start ← tokenStart
  expectChar '\x60'
  let parts ← many do
    let here ← get
    set (here.advance (Lexical.templateTextLength here.rest))
    match (← get).rest with
    | '$' :: '\x7b' :: _ =>
      let open_ ← lastEnd
      consume 2
      let e ← g (.expressions {})
      expect "\x7d"
      return some (← finish "template_substitution" open_ [e])
    | '\x60' :: _ =>
      consume 1
      return none
    | _ => failure
  finish "template_string" start parts

/-- A regular expression with its flags. -/
def regexLiteral : Parser Node := do
  match ← peek with
  | '/' :: cs =>
    match Lexical.regexLength false cs with
    | some n => leaf "regex" (1 + n + Lexical.runLength Char.isAlpha (cs.drop n))
    | none => failure
  | _ => failure

/-- An array literal. -/
def arrayLiteral (g : Grammar) : Parser Node := do
  let start ← tokenStart
  expect "["
  let elements ← itemsUntil "]" (argument g)
  finish "array" start elements

/-- An expression in parentheses, or an arrow function whose parameters they hold. -/
def parenthesized (g : Grammar) (ctx : Context) : Parser Node := do
  let start ← tokenStart
  expect "("
  let items ← itemsUntil ")" (argument g)
  if ← lookingAt "=>" then
    let ps ← finish "formal_parameters" start (asPatterns items)
    arrowBody g ctx start (ps.inField "parameters")
  else
    match items with
    | [] => failure
    | [e] => finish "parenthesized_expression" start [e]
    | first :: _ =>
      let last := (items.getLast?.map (·.stop)).getD start
      finish "parenthesized_expression" start
        [.mk { kind := "sequence_expression", start := first.start, stop := last } items]

/-- An operand that starts with a name: a variable, an arrow function of one parameter, or one of
the words with a meaning of their own. -/
def namedOperand (g : Grammar) (ctx : Context) (w : String) : Parser Node := do
  let start ← tokenStart
  match w with
  | "this" => leaf "this" 4
  | "super" => leaf "super" 5
  | "null" => leaf "null" 4
  | "true" => leaf "true" 4
  | "false" => leaf "false" 5
  | "function" => functionDefinition g false
  | "class" => classDefinition g start [] false
  | "new" => g (.construction ctx)
  | "import" =>
    let keyword ← leaf "import" 6
    if ← accept "." then
      let _ ← anyName "property_identifier"
      finish "meta_property" start []
    else return keyword
  | _ =>
    let isAsyncFunction ← lookahead do
      expectWord "async"
      if ctx.endsStatement && (← suppliesSemicolon false) then return false
      lookingAtWord "function"
    let isAsyncArrow ← lookahead do
      expectWord "async"
      if ctx.endsStatement && (← suppliesSemicolon false) then return false
      let _ ← identifier
      lookingAt "=>"
    if isAsyncFunction then functionDefinition g false
    else if isAsyncArrow then
      expectWord "async"
      let p ← identifier
      arrowBody g ctx start (p.inField "parameter")
    else
      let name ← identifier
      if ← lookingAt "=>" then arrowBody g ctx start (name.inField "parameter") else return name

/-- An operand without its accesses and calls. -/
def operand (g : Grammar) (ctx : Context) : Parser Node := do
  match ← word? with
  | some w => namedOperand g ctx w
  | none =>
    let cs ← peek
    match cs.head? with
    | some '(' => parenthesized g ctx
    | some '[' => arrayLiteral g
    | some '\x7b' => objectLiteral g
    | some '\x60' => templateLiteral g
    | some '/' => regexLiteral
    | some '<' => g .element
    | some '@' =>
      let start ← tokenStart
      let ds ← decorators g
      classDefinition g start ds false
    | some _ => if Lexical.startsNumber cs then numberLiteral else stringLiteral
    | none => failure

/-! ## Accesses and calls -/

/-- A member of `object`, whose point has been read. -/
def memberAccess (start : Nat) (object : Node) : Parser Node := do
  let property ←
    if (← peek).head? == some '#' then privateName else anyName "property_identifier"
  finish "member_expression" start [object.inField "object", property.inField "property"]

/-- An element of `object` by an expression in brackets. -/
def subscript (g : Grammar) (start : Nat) (object : Node) : Parser Node := do
  expect "["
  let index ← g (.expressions {})
  expect "]"
  finish "subscript_expression" start [object.inField "object", index.inField "index"]

/-- A template passed to the function in front of it. -/
def taggedTemplate (g : Grammar) (start : Nat) (callee : Node) : Parser Node := do
  let template ← templateLiteral g
  finish "call_expression" start [callee.inField "function", template.inField "arguments"]

/-- A call with arguments in parentheses. -/
def call (g : Grammar) (start : Nat) (callee : Node) : Parser Node := do
  let args ← arguments g
  finish "call_expression" start [callee.inField "function", args.inField "arguments"]

/-- The next access to a member or element, or template, behind `object`. -/
def accessStep (g : Grammar) (start : Nat) (object : Node) : Parser (Option Node) := do
  if ← accept "." then return some (← memberAccess start object)
  if ← lookingAt "[" then return some (← subscript g start object)
  if (← peek).head? == some '\x60' then return some (← taggedTemplate g start object)
  return none

/-- The next access or call behind `object`. The name `async` with arguments and an arrow behind it
makes a function instead. -/
def suffixStep (g : Grammar) (ctx : Context) (async : Bool) (start : Nat) (object : Node) :
    Parser (Option Node) := do
  if ← accept "?." then
    if ← lookingAt "(" then return some (← call g start object)
    if ← lookingAt "[" then return some (← subscript g start object)
    if (← peek).head? == some '\x60' then return some (← taggedTemplate g start object)
    return some (← memberAccess start object)
  if ← lookingAt "(" then
    let args ← arguments g
    if async && object.kind == "identifier" then
      if ← lookingAt "=>" then
        let ps := (Node.mk { args.label with kind := "formal_parameters" }
          (asPatterns args.children)).inField "parameters"
        return some (← arrowBody g ctx start ps)
    return some (← finish "call_expression" start
      [object.inField "function", args.inField "arguments"])
  accessStep g start object

/-- An operand with its accesses and calls. -/
def leftHandSide (g : Grammar) (ctx : Context) : Parser Node := do
  let start ← tokenStart
  let async ← lookingAtWord "async"
  let first ← operand g ctx
  grow (suffixStep g ctx async start) first

/-- `new` with what it constructs and the arguments, if any. -/
def construction (g : Grammar) (ctx : Context) : Parser Node := do
  let start ← tokenStart
  expectWord "new"
  if ← accept "." then
    expectWord "target"
    finish "meta_property" start []
  else
    let inner ← tokenStart
    let first ← operand g ctx
    let constructor ← grow (accessStep g inner) first
    if ← lookingAt "(" then
      let args ← arguments g
      finish "new_expression" start
        [constructor.inField "constructor", args.inField "arguments"]
    else finish "new_expression" start [constructor.inField "constructor"]

/-! ## Operators -/

/-- Operators that stand before their operand. -/
def unaryOperators : List String := ["!", "~", "+", "-"]

/-- Words that stand before their operand. -/
def unaryWords : List String := ["typeof", "void", "delete"]

/-- An operand with its unary operators. -/
def unary (g : Grammar) (ctx : Context) : Parser Node := do
  let start ← tokenStart
  let w ← word?
  if w == some "await" then
    expectWord "await"
    let e ← g (.unary ctx)
    finish "await_expression" start [e]
  else if w.any unaryWords.contains then
    let _ ← anyName "operator"
    let e ← g (.unary ctx)
    finish "unary_expression" start [e.inField "argument"]
  else if ← lookingAtAny unaryOperators then
    consume 1
    let e ← g (.unary ctx)
    finish "unary_expression" start [e.inField "argument"]
  else if ← lookingAtAny ["++", "--"] then
    consume 2
    let e ← g (.unary ctx)
    finish "update_expression" start [e.inField "argument"]
  else
    let e ← leftHandSide g ctx
    if ← lookingAtAny ["++", "--"] then
      if ← suppliesSemicolon false then return e
      consume 2
      finish "update_expression" start [e.inField "argument"]
    else return e

/-- How strongly a binary operator binds; higher binds more strongly. -/
def strength? (ctx : Context) : String → Option Nat
  | "??" => some 1
  | "||" => some 2
  | "&&" => some 3
  | "|" => some 4
  | "^" => some 5
  | "&" => some 6
  | "==" | "!=" | "===" | "!==" => some 7
  | "<" | ">" | "<=" | ">=" | "instanceof" => some 8
  | "in" => if ctx.allowsIn then some 8 else none
  | "<<" | ">>" | ">>>" => some 9
  | "+" | "-" => some 10
  | "*" | "/" | "%" => some 11
  | "**" => some 12
  | _ => none

/-- The next operator, a word or a symbol. -/
def operator? : Parser (Option String) := do
  match ← word? with
  | some w => return some w
  | none => punctuator?

/-- Operands joined by binary operators that bind at least so strongly. Powers group to the right,
all else to the left. -/
def operation (g : Grammar) (ctx : Context) (least : Nat) : Parser Node := do
  let start ← tokenStart
  let first ← if (← peek).head? == some '#' then privateName else g (.unary ctx)
  grow (fun (left : Node) => do
    match ← operator? with
    | none => return none
    | some op =>
      match strength? ctx op with
      | none => return none
      | some s =>
        if s < least then return none
        consume op.length
        let right ← g (.operation ctx (if op == "**" then s else s + 1))
        return some (← finish "binary_expression" start
          [left.inField "left", right.inField "right"])) first

/-- Operators that combine an operation with an assignment. -/
def augmentedOperators : List String :=
  ["+=", "-=", "*=", "/=", "%=", "**=", "<<=", ">>=", ">>>=", "&=", "|=", "^=", "&&=", "||=", "??="]

/-- Does nothing follow that `yield` could pass out? -/
def lookingAtYieldEnd : Parser Bool := do
  if ← suppliesSemicolon false then return true
  if ← atEnd then return true
  if ← lookingAtAny [")", "]", "\x7d", ",", ";", ":", "?"] then return true
  return (← word?) == some "in" || (← word?) == some "of"

/-- `yield` with what it passes out, if anything. -/
def yieldExpression (g : Grammar) (ctx : Context) : Parser Node := do
  let start ← tokenStart
  expectWord "yield"
  if ← accept "*" then
    let e ← g (.assignment ctx)
    finish "yield_expression" start [e]
  else if ← lookingAtYieldEnd then finish "yield_expression" start []
  else
    let e ← g (.assignment ctx)
    finish "yield_expression" start [e]

/-- One expression: a choice between two, an assignment, or an operation. -/
def assignment (g : Grammar) (ctx : Context) : Parser Node := do
  let start ← tokenStart
  if ← lookingAtWord "yield" then yieldExpression g ctx
  else
    let left ← g (.operation ctx 1)
    if ← accept "?" then
      let yes ← g (.assignment {})
      expect ":"
      let no ← g (.assignment ctx)
      finish "ternary_expression" start
        [left.inField "condition", yes.inField "consequence", no.inField "alternative"]
    else if ← accept "=" then
      let right ← g (.assignment ctx)
      finish "assignment_expression" start
        [(asPattern left).inField "left", right.inField "right"]
    else
      match ← punctuator? with
      | some op =>
        if augmentedOperators.contains op then
          consume op.length
          let right ← g (.assignment ctx)
          finish "augmented_assignment_expression" start
            [left.inField "left", right.inField "right"]
        else return left
      | none => return left

/-- Expressions divided by commas. -/
def expressions (g : Grammar) (ctx : Context) : Parser Node := do
  let start ← tokenStart
  let first ← g (.assignment ctx)
  let others ← many do
    if ← accept "," then return some (← g (.assignment ctx)) else return none
  if others.isEmpty then return first
  finish "sequence_expression" start (first :: others)

end CallFlow.JavaScript
