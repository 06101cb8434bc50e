import CallFlow.Graph.CallerTable
import CallFlow.Text.Quoted

/-!
# Collecting units

A builder collects units until the graph is built, and takes nothing after that: a function's
figures depend on calls from files that may come later, so nothing is computed before all units are
in.
-/

namespace CallFlow

/-- Why a builder refuses an operation. -/
inductive BuilderError where
  | addAfterBuild
  | builtTwice
  /-- The table of callers has no row for a function. -/
  | missingFunction (key : FunctionKey)
  deriving Repr, DecidableEq, Inhabited

/-- The wording of a refusal. -/
def BuilderError.message : BuilderError → String
  | addAfterBuild => "Cannot add source units after the call graph is built"
  | builtTwice => "Call graph has already been built"
  | missingFunction k =>
    "(" ++ Text.Quoted.encode k.file ++ ", " ++ Text.Quoted.encode k.name ++ ", " ++
      toString k.line ++ ")"

/-- What has been collected so far. -/
structure GraphBuilder where
  /-- The units in the order of their addition. -/
  units : List SourceUnit := []
  /-- The paths of units that were added, as a set: only membership matters. -/
  paths : List String := []
  /-- Has the graph been built? -/
  closed : Bool := false
  deriving Repr, DecidableEq, Inhabited

/-- Operations on a builder. What one of them has changed before it fails stays changed. -/
abbrev BuilderM := EStateM BuilderError GraphBuilder

/-- What an operation gives with the builder after it, unless it fails. -/
def BuilderM.outcome {α : Type} (x : BuilderM α) (b : GraphBuilder) :
    Except BuilderError (α × GraphBuilder) :=
  match x.run b with
  | .ok a b' => .ok (a, b')
  | .error e _ => .error e

namespace GraphBuilder

/-- Adds a unit; one whose path is present already is ignored. -/
def add (u : SourceUnit) : BuilderM Unit := do
  let b ← get
  if b.closed then throw .addAfterBuild
  else if b.paths.contains u.path then pure ()
  else set { b with paths := b.paths ++ [u.path], units := b.units ++ [u] }

/-- Closes the builder and builds the graph. -/
def build : BuilderM CallGraph := do
  let b ← get
  if b.closed then throw .builtTwice
  else
    -- a failure from here on leaves a closed builder
    set { b with closed := true }
    match CallGraph.collect b.units with
    | .ok g => pure g
    | .error k => throw (.missingFunction k)

/-- The graph of a list of units that are added in turn. -/
def fromUnits (units : List SourceUnit) : Except BuilderError CallGraph := do
  let (g, _) ← BuilderM.outcome (do forM units add; build) {}
  return g

end GraphBuilder

/-- The units with the first of each path kept. -/
def keptUnits (units : List SourceUnit) : List SourceUnit :=
  units.foldl (insertNew SourceUnit.path) []

/-- The graph of any list of units. -/
def CallGraph.ofUnits (units : List SourceUnit) : CallGraph :=
  CallGraph.of (keptUnits units)

end CallFlow
