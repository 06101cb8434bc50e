import CallFlow.JavaScript.Parser

/-!
# Bindings, functions, classes and object members

Productions for everything that binds names or defines functions. Each takes the grammar's parsers
for the parts it contains.
-/

namespace CallFlow.JavaScript

open CallFlow.Tree (Node)
open CallFlow.JavaScript.Parser

/-! ## Names and literals -/

/-- A string literal. -/
def stringLiteral : Parser Node := do
  match ← peek with
  | q :: cs =>
    guard (q == '\x22' || q == '\x27')
    match Lexical.quotedLength q false cs with
    | some n => leaf "string" (n + 1)
    | none => failure
  | [] => failure

/-- A number literal. -/
def numberLiteral : Parser Node := do
  let cs ← peek
  guard (Lexical.startsNumber cs)
  leaf "number" (Lexical.numberLength cs)

/-- A private name, written with a number sign. -/
def privateName : Parser Node := do
  match ← peek with
  | '#' :: cs =>
    let n := Lexical.nameLength cs
    guard (n != 0)
    leaf "private_property_identifier" (n + 1)
  | _ => failure

/-- The name of a member: an identifier, a private name, a string, a number, or an expression in
brackets. -/
def propertyName (g : Grammar) : Parser Node := do
  let cs ← peek
  match cs.head? with
  | some '#' => privateName
  | some '[' =>
    let start ← tokenStart
    expect "["
    let e ← g (.assignment {})
    expect "]"
    finish "computed_property_name" start [e]
  | some c =>
    if c == '\x22' || c == '\x27' then stringLiteral
    else if Lexical.startsNumber cs then numberLiteral
    else anyName "property_identifier"
  | none => failure

/-! ## Blocks -/

/-- Statements up to the closing brace, which is passed over. -/
def statementsUntilBrace (g : Grammar) : Parser (List Node) :=
  many do
    if ← accept "\x7d" then return none
    return some (← g .statement)

/-- Statements in braces. -/
def block (g : Grammar) : Parser Node := do
  let start ← tokenStart
  expect "\x7b"
  let body ← statementsUntilBrace g
  finish "statement_block" start body

/-! ## Bindings -/

/-- A binding with the value it has by default. -/
def bindingWithDefault (g : Grammar) : Parser Node := do
  let start ← tokenStart
  let left ← g .binding
  if ← accept "=" then
    let right ← g (.assignment {})
    finish "assignment_pattern" start [left.inField "left", right.inField "right"]
  else return left

/-- A binding that takes what is left over. -/
def restBinding (g : Grammar) : Parser Node := do
  let start ← tokenStart
  expect "..."
  let b ← g .binding
  finish "rest_pattern" start [b]

/-- One member of an object pattern. -/
def patternMember (g : Grammar) : Parser Node := do
  let start ← tokenStart
  if ← lookingAt "..." then restBinding g
  else
    let key ← propertyName g
    if ← accept ":" then
      let value ← bindingWithDefault g
      finish "pair_pattern" start [key.inField "key", value.inField "value"]
    else
      guard (key.kind == "property_identifier")
      let name := key.ofKind "shorthand_property_identifier_pattern"
      if ← accept "=" then
        let right ← g (.assignment {})
        finish "object_assignment_pattern" start [name.inField "left", right.inField "right"]
      else return name

/-- What a declaration or parameter binds: a name, or names taken out of an object or array. -/
def binding (g : Grammar) : Parser Node := do
  let start ← tokenStart
  if ← lookingAt "..." then restBinding g
  else if ← accept "\x7b" then
    let members ← itemsUntil "\x7d" (patternMember g)
    finish "object_pattern" start members
  else if ← accept "[" then
    let elements ← itemsUntil "]" (bindingWithDefault g)
    finish "array_pattern" start elements
  else identifier

mutual

/-- Reads an expression as the target of an assignment: literals become patterns. -/
def asPattern : Node → Node
  | .mk l cs =>
    match l.kind with
    | "object" => .mk { l with kind := "object_pattern" } (asPatterns cs)
    | "array" => .mk { l with kind := "array_pattern" } (asPatterns cs)
    | "pair" => .mk { l with kind := "pair_pattern" } (asPatterns cs)
    | "spread_element" => .mk { l with kind := "rest_pattern" } (asPatterns cs)
    | "assignment_expression" => .mk { l with kind := "assignment_pattern" } cs
    | "shorthand_property_identifier" =>
      .mk { l with kind := "shorthand_property_identifier_pattern" } cs
    | _ => .mk l cs

/-- Reads each of the expressions as a target. -/
def asPatterns : List Node → List Node
  | [] => []
  | n :: ns => asPattern n :: asPatterns ns

end

/-! ## Functions -/

/-- A parameter list with its parentheses. -/
def parameters (g : Grammar) : Parser Node := do
  let start ← tokenStart
  expect "("
  let ps ← itemsUntil ")" (bindingWithDefault g)
  finish "formal_parameters" start ps

/-- Does a function with a name of its own stand here? -/
def lookingAtNamedFunction : Parser Bool :=
  lookahead do
    let _ ← acceptWord "async"
    expectWord "function"
    let _ ← accept "*"
    lookingAtIdentifier

/-- A function written with the keyword. A declaration has a name; an expression need not. -/
def functionDefinition (g : Grammar) (declares : Bool) : Parser Node := do
  let start ← tokenStart
  let _ ← acceptWord "async"
  expectWord "function"
  let generates ← accept "*"
  let name ← if ← lookingAtIdentifier then some <$> identifier else pure none
  guard (name.isSome || !declares)
  let ps ← parameters g
  let body ← block g
  let kind :=
    match declares, generates with
    | true, true => "generator_function_declaration"
    | true, false => "function_declaration"
    | false, true => "generator_function"
    | false, false => "function_expression"
  finish kind start
    ((name.map (·.inField "name")).toList ++ [ps.inField "parameters", body.inField "body"])

/-- The rest of an arrow function behind its parameters. -/
def arrowBody (g : Grammar) (ctx : Context) (start : Nat) (ps : Node) : Parser Node := do
  expect "=>"
  let body ← if ← lookingAt "\x7b" then block g else g (.assignment ctx)
  finish "arrow_function" start [ps, body.inField "body"]

/-- The rest of a method behind its name. -/
def methodBody (g : Grammar) (start : Nat) (decorators : List Node) (name : Node) :
    Parser Node := do
  let ps ← parameters g
  let body ← block g
  finish "method_definition" start
    (decorators ++ [name.inField "name", ps.inField "parameters", body.inField "body"])

/-- Passes over a word that qualifies the member behind it. The word is the member's own name if the
member ends or goes on right behind it, and in a class also if a semicolon is supplied there. -/
def acceptModifier (inClass : Bool) (w : String) : Parser Bool := do
  let qualifies ← lookahead do
    expectWord w
    if ← atEnd then return false
    if ← lookingAtAny ["(", "=", ";", "\x7d", ",", ":"] then return false
    if inClass then return !(← suppliesSemicolon true)
    return true
  if qualifies then consume w.length
  return qualifies

/-- Passes over the words that may stand before the name of a method. -/
def acceptMethodModifiers (inClass : Bool) : Parser Unit := do
  let _ ← acceptModifier inClass "async"
  unless ← accept "*" do
    unless ← acceptModifier inClass "get" do
      let _ ← acceptModifier inClass "set"

/-! ## Calls -/

/-- An argument, or several by spreading a list. -/
def argument (g : Grammar) : Parser Node := do
  let start ← tokenStart
  if ← accept "..." then
    let e ← g (.assignment {})
    finish "spread_element" start [e]
  else g (.assignment {})

/-- Arguments with their parentheses. -/
def arguments (g : Grammar) : Parser Node := do
  let start ← tokenStart
  expect "("
  let args ← itemsUntil ")" (argument g)
  finish "arguments" start args

/-! ## Objects -/

/-- One member of an object literal. A name with a default value is a member only where the literal
turns out to be a pattern. -/
def objectMember (g : Grammar) : Parser Node := do
  let start ← tokenStart
  if ← lookingAt "..." then argument g
  else
    acceptMethodModifiers false
    let key ← propertyName g
    if ← lookingAt "(" then methodBody g start [] key
    else if ← accept ":" then
      let value ← g (.assignment {})
      finish "pair" start [key.inField "key", value.inField "value"]
    else
      guard (key.kind == "property_identifier" && key.start == start)
      if ← accept "=" then
        let name := key.ofKind "shorthand_property_identifier_pattern"
        let right ← g (.assignment {})
        finish "object_assignment_pattern" start [name.inField "left", right.inField "right"]
      else return key.ofKind "shorthand_property_identifier"

/-- An object literal. -/
def objectLiteral (g : Grammar) : Parser Node := do
  let start ← tokenStart
  expect "\x7b"
  let members ← itemsUntil "\x7d" (objectMember g)
  finish "object" start members

/-! ## Classes -/

/-- A decorator: a name, a member of one, a call of either, or an expression in parentheses. -/
def decorator (g : Grammar) : Parser Node := do
  let start ← tokenStart
  expect "@"
  if ← lookingAt "(" then
    let open_ ← tokenStart
    expect "("
    let e ← g (.expressions {})
    expect ")"
    let inner ← finish "parenthesized_expression" open_ [e]
    finish "decorator" start [inner]
  else
    let nameStart ← tokenStart
    let name ← identifier
    let target ← grow (fun (object : Node) => do
      if ← accept "." then
        let property ← anyName "property_identifier"
        return some (← finish "member_expression" nameStart
          [object.inField "object", property.inField "property"])
      else return none) name
    if ← lookingAt "(" then
      let args ← arguments g
      let call ← finish "call_expression" nameStart
        [target.inField "function", args.inField "arguments"]
      finish "decorator" start [call]
    else finish "decorator" start [target]

/-- All decorators that stand here. -/
def decorators (g : Grammar) : Parser (List Node) :=
  many do
    if ← lookingAt "@" then return some ((← decorator g).inField "decorator") else return none

/-- Do the words `static get` stand here, with the line ended behind them? They then qualify the
member on the next line. -/
def lookingAtBrokenStaticGetter : Parser Bool := do
  let cs ← peek
  let afterStatic := cs.drop 6
  let blanks := afterStatic.takeWhile Lexical.isBlank
  let afterBlanks := afterStatic.dropWhile Lexical.isBlank
  return "static".toList.isPrefixOf cs && !blanks.isEmpty && "get".toList.isPrefixOf afterBlanks &&
    ((afterBlanks.drop 3).takeWhile Lexical.isBlank).contains '\n'

/-- One member of a class: a method, a field, or a block that runs once. -/
def classMember (g : Grammar) : Parser Node := do
  let start ← tokenStart
  let isBlock ← lookahead do
    expectWord "static"
    lookingAt "\x7b"
  if isBlock then
    expectWord "static"
    let body ← block g
    finish "class_static_block" start [body.inField "body"]
  else
    let ds ← decorators g
    if ← lookingAtBrokenStaticGetter then
      expectWord "static"
      expectWord "get"
    else
      let _ ← acceptModifier true "static"
      acceptMethodModifiers true
    let key ← propertyName g
    if ← lookingAt "(" then methodBody g start ds key
    else
      let property := key.inField "property"
      if ← accept "=" then
        let value ← g (.assignment { endsStatement := true })
        let field ← finish "field_definition" start (ds ++ [property, value.inField "value"])
        semicolon false
        return field
      else
        let field ← finish "field_definition" start (ds ++ [property])
        semicolon true
        return field

/-- The members of a class in braces. -/
def classBody (g : Grammar) : Parser Node := do
  let start ← tokenStart
  expect "\x7b"
  let members ← many do
    let _ ← many do
      if ← accept ";" then return some () else return none
    if ← accept "\x7d" then return none
    return some ((← classMember g).inField "member")
  finish "class_body" start members

/-- Does a class with a name of its own stand here, behind its decorators? -/
def lookingAtNamedClass : Parser Bool :=
  lookahead do
    expectWord "class"
    lookingAtIdentifier

/-- A class behind its decorators. -/
def classDefinition (g : Grammar) (start : Nat) (ds : List Node) (declares : Bool) :
    Parser Node := do
  expectWord "class"
  let name ← if ← lookingAtIdentifier then some <$> identifier else pure none
  guard (name.isSome || !declares)
  let heritageStart ← tokenStart
  let heritage ← if ← acceptWord "extends" then
      let parent ← g (.unary {})
      some <$> finish "class_heritage" heritageStart [parent]
    else pure none
  let body ← classBody g
  finish (if declares then "class_declaration" else "class") start
    (ds ++ (name.map (·.inField "name")).toList ++ heritage.toList ++ [body.inField "body"])

end CallFlow.JavaScript
