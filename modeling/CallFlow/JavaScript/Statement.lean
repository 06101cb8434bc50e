import CallFlow.JavaScript.Expression

/-!
# Statements and declarations
-/

namespace CallFlow.JavaScript

open CallFlow.Tree (Node)
open CallFlow.JavaScript.Parser

/-! ## Variable declarations -/

/-- Context of an expression that ends its statement. -/
def ending : Context := { endsStatement := true }

/-- One variable with its value. An equals sign that no value follows is set apart as an error. -/
def declarator (g : Grammar) (ctx : Context) : Parser (List Node) := do
  let start ← tokenStart
  let name := (← g .binding).inField "name"
  if ← lookingAt "=" then
    let sign ← tokenStart
    expect "="
    match ← optional? (g (.assignment ctx)) with
    | some value => return [← finish "variable_declarator" start [name, value.inField "value"]]
    | none =>
      return [.mk { kind := "variable_declarator", start := start, stop := name.stop } [name],
        .mk { kind := "ERROR", start := sign, stop := sign + 1 } []]
  else return [← finish "variable_declarator" start [name]]

/-- The variables after the first. -/
def moreDeclarators (g : Grammar) (ctx : Context) : Parser (List Node) := do
  return (← many do
    if ← accept "," then return some (← declarator g ctx) else return none).flatten

/-- The kind of declaration that a word starts here. The words that are not reserved start one only
if something to bind follows on the same line. -/
def declarationKind? : Parser (Option (String × Nat)) := do
  match ← word? with
  | some "var" => return some ("variable_declaration", 3)
  | some "const" => return some ("lexical_declaration", 5)
  | some "let" =>
    let declares ← lookahead do
      expectWord "let"
      if ← suppliesSemicolon false then return false
      return (← lookingAt "[") || (← lookingAt "\x7b") || (← lookingAtIdentifier)
    return if declares then some ("lexical_declaration", 3) else none
  | some "using" =>
    let declares ← lookahead do
      expectWord "using"
      if ← suppliesSemicolon false then return false
      return (← lookingAtIdentifier) && (← word?) != some "of"
    return if declares then some ("using_declaration", 5) else none
  | _ => return none

/-- A declaration of variables. -/
def variableDeclaration (g : Grammar) (kind : String) (keyword : Nat) : Parser Node := do
  let start ← tokenStart
  consume keyword
  let first ← declarator g ending
  let more ← moreDeclarators g ending
  semicolon false
  finish kind start (first ++ more)

/-! ## Modules -/

/-- A name in a list of imports or exports: a word or a string. -/
def moduleName : Parser Node := do
  match (← peek).head? with
  | some c => if c == '\x22' || c == '\x27' then stringLiteral else anyName "identifier"
  | none => failure

/-- A name with the name it is known by on the other side. -/
def moduleSpecifier (kind : String) : Parser Node := do
  let start ← tokenStart
  let name := (← moduleName).inField "name"
  if ← acceptWord "as" then
    let alias_ ← moduleName
    finish kind start [name, alias_.inField "alias"]
  else finish kind start [name]

/-- Names in braces. -/
def moduleSpecifiers (kind item : String) : Parser Node := do
  let start ← tokenStart
  expect "\x7b"
  let items ← itemsUntil "\x7d" (moduleSpecifier item)
  finish kind start items

/-- The module that is imported from, and what is asked of it. -/
def fromClause (g : Grammar) : Parser (List Node) := do
  expectWord "from"
  let source := (← stringLiteral).inField "source"
  return source :: (← moduleAttributes)
where
  moduleAttributes : Parser (List Node) := do
    if ← suppliesSemicolon false then return []
    let start ← tokenStart
    if (← acceptWord "with") || (← acceptWord "assert") then
      let o ← objectLiteral g
      return [← finish "import_attribute" start [o]]
    else return []

/-- All names of a module under one. -/
def namespaceImport : Parser Node := do
  let start ← tokenStart
  expect "*"
  expectWord "as"
  let name ← identifier
  finish "namespace_import" start [name]

/-- What an import binds: a default, all names under one, or chosen names. -/
def importClause : Parser Node := do
  let start ← tokenStart
  let names : Parser Node := do
    if ← lookingAt "*" then namespaceImport else moduleSpecifiers "named_imports" "import_specifier"
  if ← lookingAtIdentifier then
    let default_ ← identifier
    let others ← if ← accept "," then (some <$> names) else pure none
    finish "import_clause" start (default_ :: others.toList)
  else
    let n ← names
    finish "import_clause" start [n]

/-- An import of a module. -/
def importStatement (g : Grammar) : Parser Node := do
  let start ← tokenStart
  expectWord "import"
  match ← optional? stringLiteral with
  | some source =>
    let attributes ← fromClause.moduleAttributes g
    semicolon false
    finish "import_statement" start (source.inField "source" :: attributes)
  | none =>
    let clause ← importClause
    let from_ ← fromClause g
    semicolon false
    finish "import_statement" start (clause :: from_)

/-- A function, class or variable declaration, without what may precede `export`. -/
def exportedDeclaration (g : Grammar) : Parser Node := do
  let start ← tokenStart
  if ← lookingAtNamedFunction then functionDefinition g true
  else
    match ← declarationKind? with
    | some (kind, keyword) => variableDeclaration g kind keyword
    | none =>
      let ds ← decorators g
      classDefinition g start ds true

/-- The part of an export after `default`: a declaration with a name, or a value. -/
def defaultExport (g : Grammar) : Parser Node := do
  let start ← tokenStart
  if ← lookingAtNamedFunction then return (← functionDefinition g true).inField "declaration"
  let declaresClass ← lookahead do
    let _ ← decorators g
    lookingAtNamedClass
  if declaresClass then
    let ds ← decorators g
    return (← classDefinition g start ds true).inField "declaration"
  let value ← g (.assignment ending)
  semicolon false
  return value.inField "value"

/-- An export of names. -/
def exportStatement (g : Grammar) (start : Nat) (ds : List Node) : Parser Node := do
  expectWord "export"
  if ← lookingAt "*" then
    let star ← tokenStart
    expect "*"
    let ns ← if ← acceptWord "as" then
        let name ← moduleName
        some <$> finish "namespace_export" star [name]
      else pure none
    let from_ ← fromClause g
    semicolon false
    finish "export_statement" start (ns.toList ++ from_)
  else if ← lookingAt "\x7b" then
    let clause ← moduleSpecifiers "export_clause" "export_specifier"
    let from_ ← if ← lookingAtWord "from" then fromClause g else pure []
    semicolon false
    finish "export_statement" start (clause :: from_)
  else if ← lookingAtWord "default" then
    let keyword ← leaf "default" 7
    let default_ := Node.mk { keyword.label with named := false } []
    let exported ← defaultExport g
    finish "export_statement" start (ds ++ [default_, exported])
  else
    let d ← exportedDeclaration g
    finish "export_statement" start (ds ++ [d.inField "declaration"])

/-! ## Control flow -/

/-- A condition in its parentheses. -/
def condition (g : Grammar) : Parser Node := do
  let start ← tokenStart
  expect "("
  let e ← g (.expressions {})
  expect ")"
  finish "parenthesized_expression" start [e]

/-- A choice with its alternative, if any. -/
def ifStatement (g : Grammar) : Parser Node := do
  let start ← tokenStart
  expectWord "if"
  let c ← condition g
  let yes ← g .statement
  let elseStart ← tokenStart
  if ← acceptWord "else" then
    let no ← g .statement
    let clause ← finish "else_clause" elseStart [no]
    finish "if_statement" start
      [c.inField "condition", yes.inField "consequence", clause.inField "alternative"]
  else finish "if_statement" start [c.inField "condition", yes.inField "consequence"]

/-- The rest of a loop over the keys or values of an object, behind its variable. -/
def eachLoop (g : Grammar) (start : Nat) (left : List Node) : Parser Node := do
  let _ ← anyName "operator"
  let right ← g (.expressions {})
  expect ")"
  let body ← g .statement
  finish "for_in_statement" start (left ++ [right.inField "right", body.inField "body"])

/-- The rest of a counting loop, behind its start. -/
def countingLoop (g : Grammar) (start : Nat) (initial : List Node) : Parser Node := do
  expect ";"
  let test ← if ← lookingAt ";" then pure none else some <$> g (.expressions {})
  expect ";"
  let step ← if ← lookingAt ")" then pure none else some <$> g (.expressions {})
  expect ")"
  let body ← g .statement
  finish "for_statement" start
    (initial.map (·.inField "initializer") ++ (test.map (·.inField "condition")).toList ++
      (step.map (·.inField "increment")).toList ++ [body.inField "body"])

/-- Does the head of a loop go on with `in` or `of`? -/
def lookingAtEach : Parser Bool := do
  return (← word?) == some "in" || (← word?) == some "of"

/-- A loop with its head in parentheses. -/
def forStatement (g : Grammar) : Parser Node := do
  let head : Context := { allowsIn := false }
  let start ← tokenStart
  expectWord "for"
  let _ ← acceptWord "await"
  expect "("
  let declaration ← tokenStart
  match ← declarationKind? with
  | some (kind, keyword) =>
    consume keyword
    let binds ← lookahead do
      let _ ← g .binding
      lookingAtEach
    if binds then
      let left ← g .binding
      eachLoop g start [left.inField "left"]
    else
      let first ← declarator g head
      if ← lookingAtEach then eachLoop g start (first.flatMap (·.children))
      else
        let more ← moreDeclarators g head
        let d ← finish kind declaration (first ++ more)
        countingLoop g start [d]
  | none =>
    if ← lookingAt ";" then countingLoop g start []
    else
      let e ← g (.expressions head)
      if ← lookingAtEach then eachLoop g start [(asPattern e).inField "left"]
      else countingLoop g start [e]

/-- A loop that tests before each round. -/
def whileStatement (g : Grammar) : Parser Node := do
  let start ← tokenStart
  expectWord "while"
  let c ← condition g
  let body ← g .statement
  finish "while_statement" start [c.inField "condition", body.inField "body"]

/-- A loop that tests after each round. The semicolon behind it may be left out anywhere. -/
def doStatement (g : Grammar) : Parser Node := do
  let start ← tokenStart
  expectWord "do"
  let body ← g .statement
  expectWord "while"
  let c ← condition g
  let _ ← accept ";"
  finish "do_statement" start [body.inField "body", c.inField "condition"]

/-- The handler of an exception. -/
def catchClause (g : Grammar) : Parser Node := do
  let start ← tokenStart
  expectWord "catch"
  let parameter ← if ← accept "(" then
      let p ← g .binding
      expect ")"
      pure (some (p.inField "parameter"))
    else pure none
  let body ← block g
  finish "catch_clause" start (parameter.toList ++ [body.inField "body"])

/-- A guarded block with its handlers. -/
def tryStatement (g : Grammar) : Parser Node := do
  let start ← tokenStart
  expectWord "try"
  let body ← block g
  let handler ← if ← lookingAtWord "catch" then some <$> catchClause g else pure none
  let finallyStart ← tokenStart
  let finalizer ← if ← acceptWord "finally" then
      let b ← block g
      some <$> finish "finally_clause" finallyStart [b.inField "body"]
    else pure none
  finish "try_statement" start
    ([body.inField "body"] ++ (handler.map (·.inField "handler")).toList ++
      (finalizer.map (·.inField "finalizer")).toList)

/-- The statements of one case, up to the next case or the closing brace, which are left. -/
def caseBody (g : Grammar) : Parser (List Node) :=
  many do
    if ← lookingAt "\x7d" then return none
    let w ← word?
    if w == some "case" || w == some "default" then return none
    return some (← g .statement)

/-- One case of a choice among many. -/
def switchCase (g : Grammar) : Parser Node := do
  let start ← tokenStart
  if ← acceptWord "default" then
    expect ":"
    let body ← caseBody g
    finish "switch_default" start body
  else
    expectWord "case"
    let value ← g (.expressions {})
    expect ":"
    let body ← caseBody g
    finish "switch_case" start (value.inField "value" :: body)

/-- A choice among many. -/
def switchStatement (g : Grammar) : Parser Node := do
  let start ← tokenStart
  expectWord "switch"
  let value ← condition g
  let open_ ← tokenStart
  expect "\x7b"
  let cases ← many do
    if ← accept "\x7d" then return none
    return some (← switchCase g)
  let body ← finish "switch_body" open_ cases
  finish "switch_statement" start [value.inField "value", body.inField "body"]

/-- Statements with an extended scope chain. -/
def withStatement (g : Grammar) : Parser Node := do
  let start ← tokenStart
  expectWord "with"
  let object ← condition g
  let body ← g .statement
  finish "with_statement" start [object.inField "object", body.inField "body"]

/-- A jump, with its label if one follows on the same line. -/
def jumpStatement (keyword kind : String) : Parser Node := do
  let start ← tokenStart
  expectWord keyword
  if ← accept ";" then finish kind start []
  else if ← suppliesSemicolon true then finish kind start []
  else
    let label ← anyName "statement_identifier"
    semicolon false
    finish kind start [label.inField "label"]

/-- `return` with its value, if any, or `throw`. -/
def exitStatement (g : Grammar) (keyword kind : String) : Parser Node := do
  let start ← tokenStart
  expectWord keyword
  if ← accept ";" then finish kind start []
  else if ← suppliesSemicolon true then finish kind start []
  else
    let e ← g (.expressions ending)
    semicolon false
    finish kind start [e]

/-- An expression as a statement. -/
def expressionStatement (g : Grammar) : Parser Node := do
  let start ← tokenStart
  let e ← g (.expressions ending)
  semicolon false
  finish "expression_statement" start [e]

/-- A statement with a label. -/
def labeledStatement (g : Grammar) : Parser Node := do
  let start ← tokenStart
  let label ← anyName "statement_identifier"
  expect ":"
  let body ← g .statement
  finish "labeled_statement" start [label.inField "label", body.inField "body"]

/-- Does a name with a colon behind it stand here? -/
def lookingAtLabel : Parser Bool :=
  lookahead do
    let _ ← identifier
    lookingAt ":"

/-- A statement that starts with a decorator. -/
def decoratedStatement (g : Grammar) : Parser Node := do
  let start ← tokenStart
  let ds ← decorators g
  if ← lookingAtWord "export" then exportStatement g start ds else classDefinition g start ds true

/-- A statement whose first word decides its form. -/
def wordStatement (g : Grammar) (w : String) : Parser Node := do
  match w with
  | "function" => functionDefinition g true
  | "class" => classDefinition g (← tokenStart) [] true
  | "if" => ifStatement g
  | "for" => forStatement g
  | "while" => whileStatement g
  | "do" => doStatement g
  | "try" => tryStatement g
  | "switch" => switchStatement g
  | "with" => withStatement g
  | "break" => jumpStatement "break" "break_statement"
  | "continue" => jumpStatement "continue" "continue_statement"
  | "return" => exitStatement g "return" "return_statement"
  | "throw" => exitStatement g "throw" "throw_statement"
  | "debugger" =>
    let start ← tokenStart
    expectWord "debugger"
    semicolon true
    finish "debugger_statement" start []
  | "export" => exportStatement g (← tokenStart) []
  | "import" =>
    let isExpression ← lookahead do
      expectWord "import"
      return (← lookingAt "(") || (← lookingAt ".")
    if isExpression then expressionStatement g else importStatement g
  | "async" =>
    let isFunction ← lookahead do
      expectWord "async"
      if ← suppliesSemicolon false then return false
      lookingAtWord "function"
    if isFunction then functionDefinition g true
    else if ← lookingAtLabel then labeledStatement g
    else expressionStatement g
  | "await" =>
    let declares ← lookahead do
      expectWord "await"
      if ← suppliesSemicolon false then return false
      return (← declarationKind?).any (·.1 == "using_declaration")
    if declares then
      let start ← tokenStart
      expectWord "await"
      let d ← variableDeclaration g "using_declaration" 5
      finish "using_declaration" start d.children
    else expressionStatement g
  | _ =>
    match ← declarationKind? with
    | some (kind, keyword) => variableDeclaration g kind keyword
    | none => if ← lookingAtLabel then labeledStatement g else expressionStatement g

/-- A statement or declaration. -/
def statement (g : Grammar) : Parser Node := do
  set (← get).skipTriviaBeforeStatement
  match ← word? with
  | some w => wordStatement g w
  | none =>
    match (← peek).head? with
    | some '\x7b' => block g
    | some ';' => leaf "empty_statement" 1
    | some '@' => decoratedStatement g
    | some _ => expressionStatement g
    | none => failure

end CallFlow.JavaScript
