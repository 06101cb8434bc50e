import CallFlow.Collect
import CallFlow.Graph.Basic
import CallFlow.Graph.Target
import CallFlow.Number.Natural

/-!
# Flow figures

How the figures of functions and modules follow from the units of a project.

A function is called by another function of its unit if that one's calls hold its very name, and by
another file if a call recorded for that file has its very name as target. A function's fan-in is the
number of its distinct callers. Module figures are looser: a call counts for a module as often as its
target contains the name of one of the module's functions.
-/

namespace CallFlow

/-! ## Functions -/

/-- The functions of all units, the first of each identity. -/
def distinctFunctions (units : List SourceUnit) : List FunctionRecord :=
  (units.flatMap (·.functions)).foldl (insertNew FunctionRecord.key) []

/-- The functions of a unit that call the function `f`, in order, if the unit holds `f` at all. -/
def unitCallers (f : FunctionRecord) (u : SourceUnit) : List CallerRef :=
  if u.functions.any (·.key == f.key) then
    (u.functions.filter fun g => g.key != f.key && g.calls.contains f.name).map CallerRef.ofFunction
  else []

/-- The files, other than that of `f`, for which a unit records calls of `f`, in order. -/
def fileCallers (f : FunctionRecord) (u : SourceUnit) : List CallerRef :=
  (u.calls.filter fun c => c.target == f.name && c.file != f.file).map (CallerRef.ofFile ·.file)

/-- Everything that calls a function, each caller once: functions first, then files. -/
def callersOf (units : List SourceUnit) (f : FunctionRecord) : List CallerRef :=
  (units.flatMap (unitCallers f) ++ units.flatMap (fileCallers f)).eraseDups

/-- The figures of a function with known callers. -/
def FunctionFlow.ofCallers (f : FunctionRecord) (callers : List CallerRef) : FunctionFlow :=
  { name := f.name, moduleName := f.moduleName, file := f.file, line := f.line, kind := f.kind
    fanIn := callers.length, fanOut := f.directCalls.length
    callers := callers, callees := f.directCalls }

/-- The figures of a function. -/
def FunctionFlow.of (units : List SourceUnit) (f : FunctionRecord) : FunctionFlow :=
  FunctionFlow.ofCallers f (callersOf units f)

/-! ## Modules -/

/-- Does a target lead to a function of the unit, as a whole or by one of its parts? -/
def SourceUnit.owns (u : SourceUnit) (target : String) : Bool :=
  u.definesName target || (Target.parts target).any u.definesName

/-- The objects outside a unit that its calls start from, each once. -/
def SourceUnit.externalTargets (u : SourceUnit) : List String :=
  ((u.calls.filter fun c => !u.owns c.target).map (Target.base ·.target)).eraseDups

/-- How many functions of a unit a target mentions. -/
def SourceUnit.mentionCount (u : SourceUnit) (target : String) : Nat :=
  u.functions.countP (Target.mentions target ·.name)

/-- How often the calls of other files mention functions of a unit. -/
def incomingMentions (units : List SourceUnit) (u : SourceUnit) : Nat :=
  total ((units.filter (·.path != u.path)).map fun v =>
    total (v.calls.map fun c => u.mentionCount c.target))

/-- The pairs of names of caller and callee within a unit, each once. -/
def SourceUnit.internalPairs (u : SourceUnit) : List (String × String) :=
  (u.functions.flatMap fun caller =>
    (u.functions.filter fun callee =>
      caller.key != callee.key && caller.calls.any (Target.mentions · callee.name)).map
        fun callee => (caller.name, callee.name)).eraseDups

/-- The figures of a module. -/
def ModuleFlow.of (units : List SourceUnit) (u : SourceUnit) : ModuleFlow :=
  let external := u.externalTargets
  { name := u.moduleName, path := u.path, functionCount := u.functions.length
    fanIn := incomingMentions units u + u.internalPairs.length
    fanOut := external.length, externalTargets := external }

/-! ## The graph -/

/-- The graph of a list of units with distinct paths. -/
def CallGraph.of (units : List SourceUnit) : CallGraph :=
  { units := units
    functions := (distinctFunctions units).map (FunctionFlow.of units)
    modules := units.map (ModuleFlow.of units) }

end CallFlow
