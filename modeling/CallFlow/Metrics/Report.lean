import CallFlow.Metrics.Cohesion
import CallFlow.Metrics.InformationFlow

/-!
# All metrics of a project
-/

namespace CallFlow

/-- Totals and averages. -/
structure ProjectSummary where
  totalModules : Nat := 0
  totalFunctions : Nat := 0
  totalFanIn : Nat := 0
  totalFanOut : Nat := 0
  averageFanIn : Binary64 := Binary64.zero
  averageFanOut : Binary64 := Binary64.zero
  deriving Repr, DecidableEq, Inhabited

/-- All metrics of a project. -/
structure MetricsReport where
  summary : ProjectSummary
  /-- The functions, those with the most callers first. -/
  functions : List FunctionFlow := []
  modules : List ModuleFlow := []
  coupling : CouplingReport
  cohesion : List CohesionScore := []
  informationFlow : List FlowEntry := []
  deriving Repr, DecidableEq, Inhabited

/-- A total divided evenly; zero if there is nothing to divide it by. -/
def average (total count : Nat) : Binary64 :=
  if count = 0 then Binary64.zero else Binary64.quotient total count

/-- The totals and averages over all functions. -/
def ProjectSummary.of (g : CallGraph) : ProjectSummary :=
  let count := g.functions.length
  let fanIn := total (g.functions.map (·.fanIn))
  let fanOut := total (g.functions.map (·.fanOut))
  { totalModules := g.modules.length, totalFunctions := count
    totalFanIn := fanIn, totalFanOut := fanOut
    averageFanIn := average fanIn count, averageFanOut := average fanOut count }

/-- Does `f` come before or together with `g`: by greater fan-in, then by greater fan-out? -/
def FunctionFlow.ranksBefore (f g : FunctionFlow) : Bool :=
  f.fanIn > g.fanIn || (f.fanIn == g.fanIn && f.fanOut ≥ g.fanOut)

/-- The functions by rank; those of equal rank keep their order. -/
def CallGraph.ranked (g : CallGraph) : List FunctionFlow :=
  g.functions.mergeSort FunctionFlow.ranksBefore

/-- All metrics of a graph. -/
def MetricsReport.of (c : AnalysisConfig) (g : CallGraph) : MetricsReport :=
  { summary := ProjectSummary.of g
    functions := g.ranked
    modules := g.modules
    coupling := CouplingReport.of c g.units
    cohesion := g.units.map (CohesionScore.of c)
    informationFlow := g.functions.map FlowEntry.of }

end CallFlow
