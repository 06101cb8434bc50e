import CallFlow.Graph.Basic
import CallFlow.Metrics.Config
import CallFlow.Text.Search

/-!
# Coupling

How many calls lead from one part of a project to another. The parts are the modules; a project of
one module is divided into the configured groups of functions instead.
-/

namespace CallFlow

/-- Strength of coupling. -/
inductive CouplingKind where
  | tight
  | loose
  deriving Repr, DecidableEq, Inhabited

namespace CouplingKind

/-- The word for a strength of coupling. -/
def name : CouplingKind → String
  | tight => "tight"
  | loose => "loose"

/-- All strengths. -/
def all : List CouplingKind := [tight, loose]

end CouplingKind

/-- Coupling is tight above the threshold. -/
def CouplingKind.of (c : AnalysisConfig) (calls : Int) : CouplingKind :=
  if calls > c.tightThreshold then .tight else .loose

/-- Two parts with calls between them. -/
structure CouplingPair where
  first : String
  second : String
  calls : Nat
  kind : CouplingKind
  deriving Repr, DecidableEq, Inhabited

/-- The coupling of a project. -/
structure CouplingReport where
  /-- Are the parts groups of functions? -/
  byGroup : Bool := false
  /-- Number of tight pairs. -/
  tight : Nat := 0
  /-- Number of loose pairs. -/
  loose : Nat := 0
  pairs : List CouplingPair := []
  deriving Repr, DecidableEq, Inhabited

/-- Every pair of an element with a later one. -/
def pairsOf {α : Type} : List α → List (α × α)
  | [] => []
  | x :: xs => xs.map (x, ·) ++ pairsOf xs

/-- Does one of the words occur in the text? -/
def holdsAny (words : List String) (text : String) : Bool :=
  words.any (Text.contains text)

/-- Number of calls in a unit from functions of a group to names of another. -/
def groupCalls (u : SourceUnit) (first second : List String) : Nat :=
  total ((u.functions.filter (holdsAny first ·.name)).map fun f =>
    f.calls.countP (holdsAny second))

/-- The calls between any two groups of a unit. -/
def groupCounts (c : AnalysisConfig) (u : SourceUnit) : List (String × String × Nat) :=
  (pairsOf c.groups).map fun (a, b) => (a.1, b.1, groupCalls u a.2 b.2)

/-- Number of calls of a unit whose targets contain a module's name. -/
def callsInto (u : SourceUnit) (moduleName : String) : Nat :=
  u.calls.countP (Text.contains ·.target moduleName)

/-- The calls between any two units, the one with the smaller path first. -/
def moduleCounts (units : List SourceUnit) : List (String × String × Nat) :=
  units.flatMap fun u =>
    (units.filter (decide <| u.path < ·.path)).map fun v =>
      (u.moduleName, v.moduleName, callsInto u v.moduleName + callsInto v u.moduleName)

/-- The calls between any two parts of a project, and whether the parts are groups. -/
def couplingCounts (c : AnalysisConfig) : List SourceUnit → Bool × List (String × String × Nat)
  | [u] => (true, groupCounts c u)
  | units => (false, moduleCounts units)

/-- The coupling of a project: the pairs of parts with calls between them. -/
def CouplingReport.of (c : AnalysisConfig) (units : List SourceUnit) : CouplingReport :=
  let (byGroup, counts) := couplingCounts c units
  let pairs := (counts.filter (0 < ·.2.2)).map fun (first, second, calls) =>
    (⟨first, second, calls, CouplingKind.of c calls⟩ : CouplingPair)
  let tight := pairs.countP (·.kind == .tight)
  { byGroup := byGroup, tight := tight, loose := pairs.length - tight, pairs := pairs }

end CallFlow
