import CallFlow.Tree.Walk
import CallFlow.Unit.Record

/-!
# Callees

The name of a callee and the calls that a function makes. A call belongs to the innermost function
around it, so a function's own calls are those in its body outside nested functions. Direct calls of
names on a deny-list are never recorded.
-/

namespace CallFlow

open CallFlow.Tree (Node Source walkScope)

/-- The name and form of a callee. -/
structure Callee where
  name : String
  kind : CallKind
  deriving Repr, DecidableEq, Inhabited

namespace Callee

/-- The callee of a call: a plain name, or a member, written with its object if that is a plain name
too. Other callees have no name. -/
def of? (src : Source) (call : Node) : Option Callee := do
  let callee ← call.child? "function"
  if callee.kind == "identifier" then
    return ⟨callee.text src, .direct⟩
  else if callee.kind == "member_expression" then
    let property ← callee.child? "property"
    match callee.child? "object" with
    | some object =>
      if object.kind == "identifier" then
        return ⟨object.text src ++ "." ++ property.text src, .member⟩
      else return ⟨property.text src, .member⟩
    | none => return ⟨property.text src, .member⟩
  else none

/-- Is this a direct call of a name on the deny-list? -/
def isDenied (denied : List String) (c : Callee) : Bool :=
  c.kind == .direct && denied.contains c.name

end Callee

/-- Names of the host and the runtime whose direct calls are not recorded. -/
def defaultDenied : List String :=
  ["console", "require", "setTimeout", "setInterval", "clearTimeout", "clearInterval", "Math",
    "Array", "Set", "Map", "Object", "parseInt", "parseFloat", "isNaN", "isFinite"]

/-- The callees of a function, all of them and the plain names among them. -/
structure CallNames where
  calls : List String := []
  directCalls : List String := []
  deriving Repr, DecidableEq, Inhabited

namespace CallNames

/-- Adds a callee at the end unless it is denied or its name is already there. -/
def add (denied : List String) (names : CallNames) (c : Callee) : CallNames :=
  if c.isDenied denied || names.calls.contains c.name then names
  else
    { calls := names.calls ++ [c.name]
      directCalls :=
        if c.kind == .direct then names.directCalls ++ [c.name] else names.directCalls }

/-- The callees of the calls in a function's own body. -/
def ofFunction (src : Source) (denied : List String) (function : Node) : CallNames :=
  match function.child? "body" with
  | none => {}
  | some body =>
    let calls := ((walkScope ⟨0, body⟩).map (·.node)).filter (·.kind == "call_expression")
    (calls.filterMap (Callee.of? src)).foldl (add denied) {}

end CallNames

/-- The record of one call, unless its callee has no name or is denied. -/
def CallRecord.ofCall? (src : Source) (denied : List String) (file : String)
    (caller : Option String) (call : Node) : Option CallRecord := do
  let callee ← Callee.of? src call
  guard !(callee.name.isEmpty || callee.isDenied denied)
  return { file := file, caller := caller, target := callee.name, line := call.line src,
           column := call.column src, kind := callee.kind }

end CallFlow
