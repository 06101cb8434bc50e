import CallFlow.Collect
import CallFlow.Path
import CallFlow.Unit.Modules

/-!
# Extracting the records of a file

One walk over a file's tree collects everything: functions with their names, calls with the function
around them, imports and exports. Of functions with the same file, name and line only the first is
kept.
-/

namespace CallFlow

open CallFlow.Tree (Node Source Visit)

/-! ## Functions -/

/-- The form of a function by its kind of node. -/
def FunctionKind.ofNode (n : Node) : FunctionKind :=
  match n.kind with
  | "function_declaration" | "generator_function_declaration" => .declaration
  | "arrow_function" => .arrow
  | "method_definition" => .method
  | _ => .expression

/-- The name of a parameter, with stand-ins for patterns. -/
def parameterName (src : Source) (p : Node) : String :=
  match p.kind with
  | "identifier" => p.text src
  | "object_pattern" => "object"
  | "array_pattern" => "array"
  | _ => "unnamed"

/-- The names of a function's parameters. -/
def parameterNames (src : Source) (function : Node) : List String :=
  match function.child? "parameter" with
  | some single => [single.text src]
  | none =>
    match function.child? "parameters" with
    | some list => (list.namedChildren.filter (·.kind != "comment")).map (parameterName src)
    | none => []

/-- The record of a function definition under its name. -/
def FunctionRecord.ofNode (src : Source) (denied : List String) (file moduleName name : String)
    (n : Node) : FunctionRecord :=
  let names := CallNames.ofFunction src denied n
  { name := name, file := file, moduleName := moduleName
    parameters := parameterNames src n
    calls := names.calls, directCalls := names.directCalls
    line := n.line src, endLine := n.endLine src
    kind := FunctionKind.ofNode n }

/-! ## The walk -/

/-- What the walk has collected so far. -/
structure Scan where
  /-- Number of names made up. -/
  counter : Nat := 0
  /-- Names given to function nodes, by the nodes' indices; the latest first. -/
  names : List (Nat × String) := []
  functions : List FunctionRecord := []
  calls : List CallRecord := []
  imports : List ImportRecord := []
  exports : List ExportRecord := []
  deriving Repr, Inhabited

/-- The file that is scanned and how. -/
structure ScanTarget where
  source : Source
  file : String
  moduleName : String
  denied : List String

namespace Scan

/-- Takes in a function definition. -/
def addFunction (t : ScanTarget) (s : Scan) (v : Visit) : Scan :=
  let (name, counter) := resolveName t.source NamingRule.all v s.counter
  let record := FunctionRecord.ofNode t.source t.denied t.file t.moduleName name v.node
  { s with
    counter := counter
    names := (v.index, name) :: s.names
    functions := insertNew FunctionRecord.key s.functions record }

/-- The name of the innermost function around a node. -/
def callerName? (s : Scan) (v : Visit) : Option String := do
  let function ← v.enclosingFunction?
  s.names.lookup function.index

/-- Takes in a call. -/
def addCall (t : ScanTarget) (s : Scan) (v : Visit) : Scan :=
  { s with
    calls := s.calls ++
      (CallRecord.ofCall? t.source t.denied t.file (s.callerName? v) v.node).toList
    imports := s.imports ++
      (ImportRecord.ofCall? t.source (v.parent?.map (·.node)) v.node).toList }

/-- Takes in one node. -/
def add (t : ScanTarget) (s : Scan) (v : Visit) : Scan :=
  if v.node.isFunction then s.addFunction t v
  else
    match v.node.kind with
    | "call_expression" => s.addCall t v
    | "import_statement" =>
      { s with imports := s.imports ++ (ImportRecord.ofStatement? t.source v.node).toList }
    | "export_statement" =>
      { s with exports := s.exports ++ (ExportRecord.ofStatement? t.source v.node).toList }
    | _ => s

end Scan

/-- The module that a file stands for: its name without suffix. -/
def moduleNameOf (file : String) : String :=
  (Path.ofString file).stem

/-- The records of a file with the given tree. -/
def SourceUnit.ofTree (src : Source) (denied : List String) (file : String) (root : Node) :
    SourceUnit :=
  let t : ScanTarget := ⟨src, file, moduleNameOf file, denied⟩
  let s := (Tree.walk root).foldl (Scan.add t) {}
  { path := file, moduleName := t.moduleName, functions := s.functions, calls := s.calls
    imports := s.imports, exports := s.exports }

end CallFlow
