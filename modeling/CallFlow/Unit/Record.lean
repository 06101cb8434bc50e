/-!
# What one source file holds

Records of the functions, calls, imports and exports found in a file.
-/

namespace CallFlow

/-- Form in which a function is written. -/
inductive FunctionKind where
  | declaration
  | expression
  | arrow
  | method
  deriving Repr, DecidableEq, Inhabited

namespace FunctionKind

/-- The word for a form. -/
def name : FunctionKind → String
  | declaration => "declaration"
  | expression => "named-expression"
  | arrow => "arrow"
  | method => "method"

/-- All forms. -/
def all : List FunctionKind := [declaration, expression, arrow, method]

end FunctionKind

/-- Form in which a callee is written. -/
inductive CallKind where
  /-- A plain name. -/
  | direct
  /-- A member of some object. -/
  | member
  deriving Repr, DecidableEq, Inhabited

namespace CallKind

/-- The word for a form. -/
def name : CallKind → String
  | direct => "direct-identifier"
  | member => "member-expression"

/-- Both forms. -/
def all : List CallKind := [direct, member]

end CallKind

/-- Identity of a function within one analysis. -/
structure FunctionKey where
  file : String
  name : String
  line : Nat
  deriving Repr, DecidableEq, Inhabited

/-- One function definition. -/
structure FunctionRecord where
  /-- Declared or derived name. -/
  name : String
  /-- File that holds the definition. -/
  file : String
  /-- Module the file stands for. -/
  moduleName : String
  /-- Names of the parameters, with stand-ins for those that bind no single name. -/
  parameters : List String := []
  /-- Names of all callees, in the order in which they first appear. -/
  calls : List String := []
  /-- Those of `calls` whose callee is a plain name. -/
  directCalls : List String := []
  /-- First line, from 1. -/
  line : Nat
  /-- Last line, from 1. -/
  endLine : Nat
  kind : FunctionKind
  deriving Repr, DecidableEq, Inhabited

namespace FunctionRecord

/-- Identity of the function. -/
def key (f : FunctionRecord) : FunctionKey :=
  ⟨f.file, f.name, f.line⟩

/-- Identity of the function as one text. -/
def id (f : FunctionRecord) : String :=
  f.file ++ ":" ++ f.name ++ ":" ++ toString f.line

end FunctionRecord

/-- One call written in a file. -/
structure CallRecord where
  /-- File that holds the call. -/
  file : String
  /-- Name of the innermost function around the call; none at top level. -/
  caller : Option String := none
  /-- Name of the callee. -/
  target : String
  /-- Line of the call, from 1. -/
  line : Nat
  /-- Column of the call, in bytes from 0. -/
  column : Nat := 0
  kind : CallKind
  deriving Repr, DecidableEq, Inhabited

/-- One import of a module. -/
structure ImportRecord where
  /-- Name under which the module is asked for. -/
  source : String
  /-- Names bound in the importing file. -/
  localNames : List String := []
  /-- Names asked of the module. -/
  importedNames : List String := []
  /-- Is the module obtained by a call? -/
  isRequire : Bool := false
  /-- Line of the import, from 1. -/
  line : Nat
  deriving Repr, DecidableEq, Inhabited

/-- One export of names. -/
structure ExportRecord where
  names : List String := []
  isDefault : Bool := false
  /-- Module whose names are passed on. -/
  source : Option String := none
  /-- Line of the export, from 1. -/
  line : Nat
  deriving Repr, DecidableEq, Inhabited

/-- Everything found in one file. -/
structure SourceUnit where
  path : String
  moduleName : String
  functions : List FunctionRecord := []
  calls : List CallRecord := []
  imports : List ImportRecord := []
  exports : List ExportRecord := []
  /-- Faults in the text that did not prevent its analysis. -/
  syntaxErrors : List String := []
  deriving Repr, DecidableEq, Inhabited

namespace SourceUnit

/-- Does the unit define a function of this name? -/
def definesName (u : SourceUnit) (name : String) : Bool :=
  u.functions.any (·.name == name)

/-- The names of the unit's functions, each once, in order of code points. -/
def functionNames (u : SourceUnit) : List String :=
  (u.functions.map (·.name)).eraseDups.mergeSort (fun a b => decide (a ≤ b))

end SourceUnit

end CallFlow
