import CallFlow.Unit.Record

/-!
# The call graph

The units of a project together with the flow figures of its functions and modules. Fan-in counts
what calls a function or module, fan-out what it calls.
-/

namespace CallFlow

/-- What calls a function: another function of the same file, or some other file as a whole. -/
structure CallerRef where
  file : String
  /-- Name of the calling function; none if a whole file is meant. -/
  name : Option String := none
  /-- Line of the calling function. -/
  line : Option Int := none
  deriving Repr, DecidableEq, Inhabited

namespace CallerRef

/-- The reference to a function. -/
def ofFunction (f : FunctionRecord) : CallerRef :=
  ⟨f.file, some f.name, some f.line⟩

/-- The reference to a file. -/
def ofFile (file : String) : CallerRef := ⟨file, none, none⟩

/-- Does the reference mean a whole file? -/
def isCrossModule (c : CallerRef) : Bool := c.name.isNone

end CallerRef

/-- The flow figures of a function. -/
structure FunctionFlow where
  name : String
  moduleName : String
  file : String
  line : Nat
  kind : FunctionKind
  fanIn : Nat := 0
  fanOut : Nat := 0
  callers : List CallerRef := []
  callees : List String := []
  deriving Repr, DecidableEq, Inhabited

/-- Identity of the function. -/
def FunctionFlow.key (f : FunctionFlow) : FunctionKey :=
  ⟨f.file, f.name, f.line⟩

/-- The flow figures of a module. -/
structure ModuleFlow where
  name : String
  path : String
  functionCount : Nat := 0
  fanIn : Nat := 0
  fanOut : Nat := 0
  /-- The objects outside the module that its calls start from. -/
  externalTargets : List String := []
  deriving Repr, DecidableEq, Inhabited

/-- The units of a project and their flow figures. -/
structure CallGraph where
  units : List SourceUnit := []
  functions : List FunctionFlow := []
  modules : List ModuleFlow := []
  deriving Repr, DecidableEq, Inhabited

namespace CallGraph

/-- The function with the given identity. -/
def function? (g : CallGraph) (key : FunctionKey) : Option FunctionFlow :=
  g.functions.find? (·.key == key)

/-- The module of the given file. -/
def module? (g : CallGraph) (path : String) : Option ModuleFlow :=
  g.modules.find? (·.path == path)

/-- The functions of a name, in any module or in the given one. -/
def functionsNamed (g : CallGraph) (name : String) (moduleName : Option String) :
    List FunctionFlow :=
  g.functions.filter fun f => f.name == name && moduleName.all (f.moduleName == ·)

end CallGraph

end CallFlow
