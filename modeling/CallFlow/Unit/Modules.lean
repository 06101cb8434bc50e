import CallFlow.Unit.Callee
import CallFlow.Unit.Naming

/-!
# Imports and exports

What the import and export statements of a file, and its calls of `require`, say about other modules.
-/

namespace CallFlow

open CallFlow.Tree (Node Source)

/-- The text of an optional node, empty if there is none. -/
def optionalText (src : Source) (n : Option Node) : String :=
  (n.map (·.text src)).getD ""

namespace ImportRecord

/-- The pairs of imported and local name that one part of an import clause makes. -/
def clauseNames (src : Source) (part : Node) : List (String × String) :=
  match part.kind with
  | "identifier" => [("default", part.text src)]
  | "namespace_import" =>
    [("*", optionalText src (part.namedChildren.find? (·.kind == "identifier")))]
  | "named_imports" =>
    (part.namedChildren.filter (·.kind == "import_specifier")).map fun spec =>
      let name := optionalText src (spec.child? "name")
      (name, ((spec.child? "alias").map (·.text src)).getD name)
  | _ => []

/-- The record of an import statement. -/
def ofStatement? (src : Source) (n : Node) : Option ImportRecord :=
  if n.kind == "import_statement" then
    let parts := (n.namedChildren.filter (·.kind == "import_clause")).flatMap (·.namedChildren)
    let names := parts.flatMap (clauseNames src)
    some
      { source := ((n.child? "source").map (stringValue src)).getD ""
        localNames := names.map (·.2)
        importedNames := names.map (·.1)
        line := n.line src }
  else none

/-- The names that the declaration around a call binds to what the call returns. -/
def boundNames (src : Source) (declaration : Node) : List String :=
  match declaration.child? "name" with
  | some target =>
    if target.kind == "identifier" then [target.text src]
    else if target.kind == "object_pattern" then
      (target.namedChildren.filter (·.kind == "shorthand_property_identifier_pattern")).map
        (·.text src)
    else []
  | none => []

/-- The record of a call that obtains a module by its name, with the names that the node around the
call binds. -/
def ofCall? (src : Source) (parent : Option Node) (call : Node) : Option ImportRecord := do
  let callee ← Callee.of? src call
  guard (callee.name == "require")
  let arguments ← call.child? "arguments"
  let source ← arguments.namedChildren.find? (·.kind == "string")
  let localNames :=
    match parent with
    | some parent => if parent.kind == "variable_declarator" then boundNames src parent else []
    | none => []
  return { source := stringValue src source, localNames := localNames, isRequire := true,
           line := call.line src }

end ImportRecord

namespace ExportRecord

/-- The names that an exported declaration binds. -/
def declaredNames (src : Source) (declaration : Node) : List String :=
  match declaration.child? "name" with
  | some name => [name.text src]
  | none =>
    (declaration.namedChildren.filter (·.kind == "variable_declarator")).filterMap fun d => do
      let target ← d.child? "name"
      guard (target.kind == "identifier")
      return target.text src

/-- The names that lists of exports give to the outside. -/
def listedNames (src : Source) (n : Node) : List String :=
  let specs := (n.namedChildren.filter (·.kind == "export_clause")).flatMap (·.namedChildren)
  (specs.filter (·.kind == "export_specifier")).map fun spec =>
    optionalText src ((spec.child? "alias").or (spec.child? "name"))

/-- The record of an export statement. -/
def ofStatement? (src : Source) (n : Node) : Option ExportRecord :=
  if n.kind == "export_statement" then
    let isDefault := n.children.any (·.kind == "default")
    let source := n.child? "source"
    let names :=
      if isDefault then ["default"]
      else
        match n.child? "declaration" with
        | some d => declaredNames src d
        | none =>
          let listed := listedNames src n
          if listed.isEmpty && source.isSome then ["*"] else listed
    some
      { names := names, isDefault := isDefault, source := source.map (stringValue src)
        line := n.line src }
  else none

end ExportRecord

end CallFlow
