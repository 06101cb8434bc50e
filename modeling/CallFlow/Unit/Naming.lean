import CallFlow.Tree.Walk

/-!
# Names of functions

A function has the name it is declared with. Otherwise its surroundings are searched outward, up to
the next function: at each step the naming rules are tried in order, and the first rule that applies
decides. A rule may apply and still offer no name (a pattern, a computed key); then, as when no rule
applies, the name is made up from a counter.
-/

namespace CallFlow

open CallFlow.Tree (Node Source Place Visit)

/-- The text of a string literal without its quotes. -/
def stringValue (src : Source) (n : Node) : String :=
  let text := (n.text src).toList
  if text.length ≥ 2 then String.ofList (text.drop 1).dropLast else String.ofList text

/-- The name that a property key spells out; computed keys spell none. -/
def keyName? (src : Source) (key : Node) : Option String :=
  match key.kind with
  | "property_identifier" | "private_property_identifier" | "identifier" | "number" =>
    some (key.text src)
  | "string" => some (stringValue src key)
  | _ => none

/-- The name written in a definition itself. -/
def declaredName? (src : Source) (n : Node) : Option String :=
  match n.kind with
  | "function_declaration" | "generator_function_declaration" | "function_expression"
  | "generator_function" =>
    ((n.child? "name").map (·.text src)).filter (!·.isEmpty)
  | "method_definition" => (n.child? "name").bind (keyName? src)
  | _ => none

/-- The surroundings from which a function can take its name. -/
inductive NamingRule where
  /-- The variable that is given the function as its value. -/
  | variableBinding
  /-- The key of an object's member or the name of a class field. -/
  | propertyKey
  /-- The method that is called with the function, with the first string among the arguments. -/
  | callbackRegistration
  deriving Repr, DecidableEq, Inhabited

/-- A rule applied; the name it found is absent if the place offers none. -/
structure NameMatch where
  name : Option String
  deriving Repr, DecidableEq

namespace NamingRule

/-- The rules in order of priority. -/
def all : List NamingRule := [variableBinding, propertyKey, callbackRegistration]

/-- Does the function hang directly in this list of arguments? -/
def isArgumentOf (v : Visit) (arguments : Place) : Bool :=
  v.parent?.any (·.index == arguments.index)

/-- What a rule says about a function at one of its ancestors, entered through `child`. The function
may itself be one of the things that hang in `child`. -/
def offer (src : Source) (isArgument : Bool) (ancestor child : Node) :
    NamingRule → Option NameMatch
  | variableBinding =>
    if ancestor.kind == "variable_declarator" then
      match ancestor.child? "name" with
      | some target =>
        if target.kind == "identifier" then some ⟨some (target.text src)⟩ else some ⟨none⟩
      | none => some ⟨none⟩
    else none
  | propertyKey =>
    if ancestor.kind == "pair" then
      some ⟨(ancestor.child? "key").bind (keyName? src)⟩
    else if ancestor.kind == "field_definition" then
      some ⟨(ancestor.child? "property").bind (keyName? src)⟩
    else none
  | callbackRegistration => do
    guard (ancestor.kind == "call_expression" && child.kind == "arguments")
    guard isArgument
    let callee ← ancestor.child? "function"
    guard (callee.kind == "member_expression")
    let object ← callee.child? "object"
    let property ← callee.child? "property"
    guard (object.kind == "identifier")
    let base := object.text src ++ "." ++ property.text src
    match child.namedChildren.find? (·.kind == "string") with
    | some event => return ⟨some (base ++ "_" ++ stringValue src event)⟩
    | none => return ⟨some (base ++ "_handler")⟩

/-- What a rule says about a visited function at one of its ancestors. -/
def apply (src : Source) (v : Visit) (ancestor child : Place) (rule : NamingRule) :
    Option NameMatch :=
  rule.offer src (isArgumentOf v child) ancestor.node child.node

end NamingRule

/-- The made-up name with the given number. -/
def anonymousName (n : Nat) : String :=
  "anonymous_" ++ toString n

/-- The first rule that applies at any step outward, up to the next function. -/
def findName? (src : Source) (rules : List NamingRule) (v : Visit) : Option NameMatch :=
  (v.path.takeWhile (!·.1.node.isFunction)).findSome? fun (ancestor, child) =>
    rules.findSome? (NamingRule.apply src v ancestor child)

/-- The name of a function and the counter for made-up names after it. -/
def resolveName (src : Source) (rules : List NamingRule) (v : Visit) (counter : Nat) :
    String × Nat :=
  match (declaredName? src v.node).filter (!·.isEmpty) with
  | some name => (name, counter)
  | none =>
    match ((findName? src rules v).bind (·.name)).filter (!·.isEmpty) with
    | some name => (name, counter)
    | none => (anonymousName counter, counter + 1)

/-- The lines and names of all functions of a tree, in pre-order, and the counter after them. -/
def resolveAll (src : Source) (rules : List NamingRule) (root : Node) : List (Nat × String) × Nat :=
  ((Tree.walk root).filter (·.node.isFunction)).foldl
    (fun (found, counter) v =>
      let (name, counter) := resolveName src rules v counter
      (found ++ [(v.node.line src, name)], counter))
    ([], 0)

end CallFlow
