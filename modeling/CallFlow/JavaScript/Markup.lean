import CallFlow.JavaScript.Definition

/-!
# Markup in expressions

Elements with attributes and children. Text between tags is taken as it is: blanks and comment marks
have no meaning in it, and only a tag or a brace ends it.
-/

namespace CallFlow.JavaScript

open CallFlow.Tree (Node)
open CallFlow.JavaScript.Parser

/-- Passes over one character if it is next, whatever operator it may begin. -/
def acceptChar (c : Char) : Parser Bool := do
  if (← peek).head? == some c then
    consume 1
    return true
  else return false

/-- Passes over one character, which must be next. -/
def expectChar (c : Char) : Parser Unit := do
  guard (← acceptChar c)

/-- A name in a tag, which may hold hyphens. -/
def tagWord (kind : String) : Parser Node := do
  let cs ← peek
  guard (Lexical.nameLength cs != 0)
  leaf kind (Lexical.runLength (fun c => Lexical.isNamePart c || c == '-') cs)

/-- The name of an element: a word, words joined by points, or two words joined by a colon. -/
def elementName : Parser Node := do
  let start ← tokenStart
  let first ← tagWord "identifier"
  if ← acceptChar ':' then
    let second ← tagWord "identifier"
    finish "jsx_namespace_name" start [first, second]
  else
    grow (fun (object : Node) => do
      if ← acceptChar '.' then
        let property ← tagWord "property_identifier"
        return some (← finish "member_expression" start
          [object.inField "object", property.inField "property"])
      else return none) first

/-- An expression in braces, which may be empty or spread a value. -/
def embedded (g : Grammar) : Parser Node := do
  let start ← tokenStart
  expectChar '\x7b'
  if ← acceptChar '\x7d' then finish "jsx_expression" start []
  else
    let e ← if ← lookingAt "..." then argument g else g (.expressions {})
    expectChar '\x7d'
    finish "jsx_expression" start [e]

/-- A quoted attribute value, which may run over several lines. -/
def attributeText : Parser Node := do
  match ← peek with
  | q :: cs =>
    guard (q == '\x22' || q == '\x27')
    match Lexical.quotedLength q true cs with
    | some n => leaf "string" (n + 1)
    | none => failure
  | [] => failure

/-- The value of an attribute. -/
def attributeValue (g : Grammar) : Parser Node := do
  match (← peek).head? with
  | some '\x7b' => embedded g
  | some '<' => g .element
  | _ => attributeText

/-- One attribute, or several by spreading a value. -/
def tagAttribute (g : Grammar) : Parser Node := do
  let start ← tokenStart
  if (← peek).head? == some '\x7b' then embedded g
  else
    let name ← tagWord "property_identifier"
    let local_ ← if ← acceptChar ':' then some <$> tagWord "property_identifier" else pure none
    let value ← if ← acceptChar '=' then some <$> attributeValue g else pure none
    finish "jsx_attribute" start ([name] ++ local_.toList ++ value.toList)

/-- The attributes of a tag. -/
def attributes (g : Grammar) : Parser (List Node) :=
  many do
    match (← peek).head? with
    | some '>' => return none
    | some '/' => return none
    | some _ => return some ((← tagAttribute g).inField "attribute")
    | none => failure

/-- The children of an element, up to the closing tag, which is left. -/
def elementChildren (g : Grammar) : Parser (List Node) :=
  many do
    let here ← get
    let n := Lexical.runLength (fun c => c != '<' && c != '\x7b') here.rest
    set (here.advance n)
    match (← get).rest with
    | '<' :: _ =>
      let closes ← lookahead do
        expectChar '<'
        acceptChar '/'
      if closes then return none
      return some (← g .element)
    | '\x7b' :: _ => return some (← embedded g)
    | _ => failure

/-- The closing tag of an element. -/
def closingTag : Parser Node := do
  let start ← tokenStart
  expectChar '<'
  expectChar '/'
  let name ← if (← peek).head? == some '>' then pure none else some <$> elementName
  expectChar '>'
  finish "jsx_closing_element" start (name.map (·.inField "name")).toList

/-- An element: one tag that closes itself, or two tags with children between them. -/
def element (g : Grammar) : Parser Node := do
  let start ← tokenStart
  expectChar '<'
  let name ← if (← peek).head? == some '>' then pure none
    else some <$> (·.inField "name") <$> elementName
  let attrs ← attributes g
  if ← acceptChar '/' then
    expectChar '>'
    finish "jsx_self_closing_element" start (name.toList ++ attrs)
  else
    expectChar '>'
    let opening ← finish "jsx_opening_element" start (name.toList ++ attrs)
    let children ← elementChildren g
    let closing ← closingTag
    finish "jsx_element" start
      ([opening.inField "open_tag"] ++ children ++ [closing.inField "close_tag"])

end CallFlow.JavaScript
