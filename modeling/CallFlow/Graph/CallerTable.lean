import CallFlow.Collect
import CallFlow.Graph.Flow

/-!
# The table of callers

The callers of all functions are collected in one table, which has a row for every function from the
start: first the functions of a unit that call one another, then the files whose calls have a
function's name as target. A caller found again is not added again. Asking for a row that is not
there is an error.
-/

namespace CallFlow

/-- What a caller is known by: a function by its identity, a file by its path. -/
inductive CallerKey where
  | function (key : FunctionKey)
  | file (path : String)
  deriving Repr, DecidableEq, Inhabited

/-- The callers found so far, by the functions that they call. -/
structure CallerTable where
  rows : List (FunctionKey × List (CallerKey × CallerRef)) := []
  deriving Repr, DecidableEq, Inhabited

namespace CallerTable

/-- The table with an empty row for every function. -/
def empty (functions : List FunctionRecord) : CallerTable :=
  ⟨functions.map (·.key, [])⟩

/-- Adds a caller to a row unless it is there already; the error is the row that is missing. -/
def record (t : CallerTable) (callee : FunctionKey) (caller : CallerKey) (ref : CallerRef) :
    Except FunctionKey CallerTable :=
  if t.rows.any (·.1 == callee) then
    .ok ⟨t.rows.map fun row =>
      if row.1 == callee then (row.1, insertNew (·.1) row.2 (caller, ref)) else row⟩
  else .error callee

/-- The callers in a row. -/
def callers (t : CallerTable) (callee : FunctionKey) : Except FunctionKey (List CallerRef) :=
  match t.rows.lookup callee with
  | some row => .ok (row.map (·.2))
  | none => .error callee

/-- Adds the functions of a unit to the rows of the functions of the same unit that they call. -/
def addFunctions (t : CallerTable) (u : SourceUnit) : Except FunctionKey CallerTable :=
  u.functions.foldlM (fun t callee =>
    u.functions.foldlM (fun t caller =>
      if caller.key == callee.key || !caller.calls.contains callee.name then .ok t
      else t.record callee.key (.function caller.key) (.ofFunction caller)) t) t

/-- Adds the files for which a unit records calls to the rows of the functions with the name that is
called, other than those of the file itself. -/
def addFiles (byName : List (String × List FunctionRecord)) (t : CallerTable) (u : SourceUnit) :
    Except FunctionKey CallerTable :=
  u.calls.foldlM (fun t call =>
    ((byName.lookup call.target).getD []).foldlM (fun t callee =>
      if call.file == callee.file then .ok t
      else t.record callee.key (.file call.file) (.ofFile call.file)) t) t

end CallerTable

/-- Adds a function to the others of its name. -/
def addByName (byName : List (String × List FunctionRecord)) (f : FunctionRecord) :
    List (String × List FunctionRecord) :=
  if byName.any (·.1 == f.name) then
    byName.map fun e => if e.1 == f.name then (e.1, e.2 ++ [f]) else e
  else byName ++ [(f.name, [f])]

/-- The callers of all functions. -/
def CallerTable.collect (units : List SourceUnit) (functions : List FunctionRecord) :
    Except FunctionKey CallerTable := do
  let t ← units.foldlM addFunctions (empty functions)
  units.foldlM (addFiles (functions.foldl addByName [])) t

/-- The graph of a list of units with distinct paths, by the table of callers. -/
def CallGraph.collect (units : List SourceUnit) : Except FunctionKey CallGraph := do
  let functions := distinctFunctions units
  let t ← CallerTable.collect units functions
  let flows ← functions.mapM fun f => do return FunctionFlow.ofCallers f (← t.callers f.key)
  return { units := units, functions := flows, modules := units.map (ModuleFlow.of units) }

end CallFlow
