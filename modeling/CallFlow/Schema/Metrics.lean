import CallFlow.Metrics.Report
import CallFlow.Schema.Unit

/-!
# Graphs and metrics as data
-/

namespace CallFlow

open Schema (Fields Reader)

/-- A count, zero if absent. -/
def Schema.Fields.count {β : Type} (fs : Fields (Nat → β)) (name : String) : Fields β :=
  fs.default name (Schema.atLeast 0) 0

/-- A list of records, empty if absent. -/
def Schema.Fields.records {α β : Type} (fs : Fields (List α → β)) (name : String)
    (read : Reader α) : Fields β :=
  fs.default name (Schema.list read) []

/-! ## Graphs -/

namespace CallerRef

def fields : Fields CallerRef :=
  Fields.start CallerRef.mk
    |>.required "file_path" Schema.text
    |>.optionalText "name"
    |>.default "line" (Schema.nullable Schema.whole) none

def read : Reader CallerRef := fields.lax

def toJson (c : CallerRef) : Json :=
  .object [("file_path", .string c.file), ("name", .optional .string c.name),
    ("line", .optional .int c.line)]

end CallerRef

namespace FunctionFlow

def fields : Fields FunctionFlow :=
  Fields.start FunctionFlow.mk
    |>.required "name" Schema.text
    |>.required "module" Schema.text
    |>.required "file_path" Schema.text
    |>.required "line" (Schema.atLeast 1)
    |>.required "kind" FunctionKind.read
    |>.count "fan_in"
    |>.count "fan_out"
    |>.records "callers" CallerRef.read
    |>.texts "callees"

def read : Reader FunctionFlow := fields.lax

def toJson (f : FunctionFlow) : Json :=
  .object [("name", .string f.name), ("module", .string f.moduleName), ("file_path", .string f.file),
    ("line", .nat f.line), ("kind", .string f.kind.name), ("fan_in", .nat f.fanIn),
    ("fan_out", .nat f.fanOut), ("callers", .array (f.callers.map (·.toJson))),
    ("callees", .strings f.callees)]

end FunctionFlow

namespace ModuleFlow

def fields : Fields ModuleFlow :=
  Fields.start ModuleFlow.mk
    |>.required "name" Schema.text
    |>.required "path" Schema.text
    |>.count "function_count"
    |>.count "fan_in"
    |>.count "fan_out"
    |>.texts "external_targets"

def read : Reader ModuleFlow := fields.lax

def toJson (m : ModuleFlow) : Json :=
  .object [("name", .string m.name), ("path", .string m.path),
    ("function_count", .nat m.functionCount), ("fan_in", .nat m.fanIn), ("fan_out", .nat m.fanOut),
    ("external_targets", .strings m.externalTargets)]

end ModuleFlow

namespace CallGraph

def fields : Fields CallGraph :=
  Fields.start CallGraph.mk
    |>.records "units" SourceUnit.read
    |>.records "functions" FunctionFlow.read
    |>.records "modules" ModuleFlow.read

def read : Reader CallGraph := fields.lax

def toJson (g : CallGraph) : Json :=
  .object [("units", .array (g.units.map (·.toJson))),
    ("functions", .array (g.functions.map (·.toJson))),
    ("modules", .array (g.modules.map (·.toJson)))]

end CallGraph

/-! ## Parameters of the analysis -/

namespace AnalysisConfig

def fields : Fields AnalysisConfig :=
  let d : AnalysisConfig := {}
  let texts := Schema.list Schema.text
  Fields.start AnalysisConfig.mk
    |>.default "functional_groups" (Schema.table texts) d.groups
    |>.default "domain_keywords" texts d.keywords
    |>.default "tight_coupling_threshold" (Schema.atLeast 0) d.tightThreshold
    |>.default "high_cohesion_threshold" Schema.fraction d.highThreshold
    |>.default "medium_cohesion_threshold" Schema.fraction d.mediumThreshold

def read : Reader AnalysisConfig := fields.lax

end AnalysisConfig

/-! ## Coupling and cohesion -/

namespace CouplingPair

def fields : Fields CouplingPair :=
  Fields.start CouplingPair.mk
    |>.required "first" Schema.text
    |>.required "second" Schema.text
    |>.required "calls" (Schema.atLeast 1)
    |>.required "kind" (Schema.choice CouplingKind.all CouplingKind.name)

def read : Reader CouplingPair := fields.lax

def toJson (p : CouplingPair) : Json :=
  .object [("first", .string p.first), ("second", .string p.second), ("calls", .nat p.calls),
    ("kind", .string p.kind.name)]

end CouplingPair

namespace CouplingReport

def fields : Fields CouplingReport :=
  Fields.start CouplingReport.mk
    |>.default "by_group" Schema.truth false
    |>.count "tight"
    |>.count "loose"
    |>.records "pairs" CouplingPair.read

def read : Reader CouplingReport := fields.lax

def toJson (r : CouplingReport) : Json :=
  .object [("by_group", .bool r.byGroup), ("tight", .nat r.tight), ("loose", .nat r.loose),
    ("pairs", .array (r.pairs.map (·.toJson)))]

end CouplingReport

namespace CohesionScore

def fields : Fields CohesionScore :=
  Fields.start CohesionScore.mk
    |>.required "module" Schema.text
    |>.required "path" Schema.text
    |>.required "cohesion" Schema.fraction
    |>.count "related_pairs"
    |>.count "total_pairs"
    |>.required "rating" (Schema.choice CohesionRating.all CohesionRating.name)
    |>.optionalText "reason"

def read : Reader CohesionScore := fields.lax

def toJson (s : CohesionScore) : Json :=
  .object [("module", .string s.moduleName), ("path", .string s.path), ("cohesion", .real s.cohesion),
    ("related_pairs", .nat s.relatedPairs), ("total_pairs", .nat s.totalPairs),
    ("rating", .string s.rating.name), ("reason", .optional .string s.reason)]

end CohesionScore

/-! ## Flow and totals -/

namespace FlowEntry

def fields : Fields FlowEntry :=
  Fields.start FlowEntry.mk
    |>.required "function" Schema.text
    |>.required "module" Schema.text
    |>.required "file_path" Schema.text
    |>.required "line" (Schema.atLeast 1)
    |>.required "fan_in" (Schema.atLeast 0)
    |>.required "fan_out" (Schema.atLeast 0)
    |>.required "complexity" (Schema.atLeast 0)
    |>.required "rating" (Schema.choice FlowRating.all FlowRating.name)

def read : Reader FlowEntry := fields.lax

def toJson (e : FlowEntry) : Json :=
  .object [("function", .string e.function), ("module", .string e.moduleName),
    ("file_path", .string e.file), ("line", .nat e.line), ("fan_in", .nat e.fanIn),
    ("fan_out", .nat e.fanOut), ("complexity", .nat e.complexity), ("rating", .string e.rating.name)]

end FlowEntry

namespace ProjectSummary

def fields : Fields ProjectSummary :=
  Fields.start ProjectSummary.mk
    |>.count "total_modules"
    |>.count "total_functions"
    |>.count "total_fan_in"
    |>.count "total_fan_out"
    |>.default "avg_fan_in" Schema.nonNegative Binary64.zero
    |>.default "avg_fan_out" Schema.nonNegative Binary64.zero

def read : Reader ProjectSummary := fields.lax

def toJson (s : ProjectSummary) : Json :=
  .object [("total_modules", .nat s.totalModules), ("total_functions", .nat s.totalFunctions),
    ("total_fan_in", .nat s.totalFanIn), ("total_fan_out", .nat s.totalFanOut),
    ("avg_fan_in", .real s.averageFanIn), ("avg_fan_out", .real s.averageFanOut)]

end ProjectSummary

namespace MetricsReport

def fields : Fields MetricsReport :=
  Fields.start MetricsReport.mk
    |>.default "summary" ProjectSummary.read {}
    |>.records "functions" FunctionFlow.read
    |>.records "modules" ModuleFlow.read
    |>.default "coupling" CouplingReport.read {}
    |>.records "cohesion" CohesionScore.read
    |>.records "information_flow" FlowEntry.read

def read : Reader MetricsReport := fields.lax

def toJson (m : MetricsReport) : Json :=
  .object [("summary", m.summary.toJson), ("functions", .array (m.functions.map (·.toJson))),
    ("modules", .array (m.modules.map (·.toJson))), ("coupling", m.coupling.toJson),
    ("cohesion", .array (m.cohesion.map (·.toJson))),
    ("information_flow", .array (m.informationFlow.map (·.toJson)))]

end MetricsReport

end CallFlow
