import CallFlow.Proofs.DenyList
import CallFlow.Proofs.FileOrder
import CallFlow.Proofs.Mentions

/-!
# The totals of a report agree with its tables

A module counts the functions of its unit as they are listed, while the project counts functions by
their keys, each once. The two agree because a walk over a file keeps one function of each key and
gives all of them the path of the file: keys are distinct within a unit (`pairwise_key_ofTree`), and
they differ between files (`separateFiles_unitsOf`). The other totals are sums over a table that has
been put into another order, or that has a row for each row of another.
-/

namespace CallFlow

open CallFlow.Tree (Node Source)

/-! ## The functions of a file -/

/-- No two functions of a file have the same key. -/
theorem pairwise_key_ofTree (src : Source) (denied : List String) (file : String) (root : Node) :
    (SourceUnit.ofTree src denied file root).functions.Pairwise fun f g => f.key ≠ g.key := by
  rw [functions_ofTree]
  exact firstOfEach_pairwise FunctionRecord.key _

/-- The functions of a file name its path as their file. -/
theorem file_of_mem_ofTree {src : Source} {denied : List String} {file : String} {root : Node}
    {f : FunctionRecord} (hf : f ∈ (SourceUnit.ofTree src denied file root).functions) :
    f.file = file := by
  rw [functions_ofTree] at hf
  obtain ⟨s, -, hs⟩ := List.mem_filterMap.1 ((firstOfEach_sublist FunctionRecord.key _).subset hf)
  obtain ⟨name, -, rfl⟩ := Option.map_eq_some_iff.1 hs
  rfl

/-- Files with distinct paths give units of separate files. -/
theorem separateFiles_unitsOf (denied : List String) {files : List (String × Source × Node)}
    (hpaths : (files.map (·.1)).Nodup) : SeparateFiles (unitsOf denied files) where
  paths := List.pairwise_map.2 (List.pairwise_map.1 hpaths)
  functions := by
    intro u hu f hf
    obtain ⟨⟨file, src, root⟩, -, rfl⟩ := List.mem_map.1 hu
    exact file_of_mem_ofTree hf

/-! ## Functions counted by module -/

/-- If keys are distinct within each unit, the functions that the modules count are all the
functions of the graph. -/
theorem sum_functionCount {units : List SourceUnit} (h : SeparateFiles units)
    (hkeys : ∀ u ∈ units, u.functions.Pairwise fun f g => f.key ≠ g.key) :
    ((CallGraph.of units).modules.map (·.functionCount)).sum =
      (CallGraph.of units).functions.length := by
  have hcounts : (CallGraph.of units).modules.map (·.functionCount) =
      units.map (·.functions.length) := by
    rw [CallGraph.of, List.map_map]
    rfl
  have hall : distinctFunctions units = units.flatMap (·.functions) := by
    rw [h.distinctFunctions_eq]
    exact List.flatMap_congr fun u hu => firstOfEach_eq_self FunctionRecord.key (hkeys u hu)
  calc ((CallGraph.of units).modules.map (·.functionCount)).sum
      = (units.map (·.functions.length)).sum := by rw [hcounts]
    _ = (units.flatMap (·.functions)).length := List.length_flatMap.symm
    _ = (distinctFunctions units).length := by rw [hall]
    _ = (CallGraph.of units).functions.length := (List.length_map ..).symm

/-! ## Tables of a report -/

/-- A total over the functions of a graph, read off the functions by rank. -/
theorem total_functions_eq_sum_ranked (g : CallGraph) (figure : FunctionFlow → Nat) :
    total (g.functions.map figure) = (g.ranked.map figure).sum := by
  rw [total_eq_sum]
  exact (((ranked_perm g).map figure).sum_eq).symm

/-- The same total, read off the complexities. -/
theorem total_functions_eq_sum_flow (g : CallGraph) {figure : FunctionFlow → Nat}
    {shown : FlowEntry → Nat} (h : ∀ f, shown (FlowEntry.of f) = figure f) :
    total (g.functions.map figure) = ((g.functions.map FlowEntry.of).map shown).sum := by
  rw [total_eq_sum, List.map_map]
  exact congrArg List.sum (List.map_congr_left fun f _ => (h f).symm)

/-- A report on a graph whose totals agree with its tables, and its tables with the graph. -/
structure MetricsReport.Agrees (r : MetricsReport) (g : CallGraph) : Prop where
  functions : r.functions.Perm g.functions
  totalFunctions : r.summary.totalFunctions = r.functions.length
  informationFlow : r.informationFlow.length = r.functions.length
  /-- The modules count each function once. -/
  functionCounts : (r.modules.map (·.functionCount)).sum = r.functions.length
  totalModules : r.summary.totalModules = r.modules.length
  cohesion : r.cohesion.length = r.modules.length
  units : r.modules.length = g.units.length
  totalFanIn : r.summary.totalFanIn = (r.functions.map (·.fanIn)).sum
  totalFanInByFlow : r.summary.totalFanIn = (r.informationFlow.map (·.fanIn)).sum
  totalFanOut : r.summary.totalFanOut = (r.functions.map (·.fanOut)).sum
  totalFanOutByFlow : r.summary.totalFanOut = (r.informationFlow.map (·.fanOut)).sum
  /-- The flows of a complexity are those of the function with its key. -/
  flows : ∀ e ∈ r.informationFlow,
    ∃ f, g.function? e.key = some f ∧ e.fanIn = f.fanIn ∧ e.fanOut = f.fanOut

theorem MetricsReport.of_agrees (c : AnalysisConfig) {units : List SourceUnit}
    (hcounts : ((CallGraph.of units).modules.map (·.functionCount)).sum =
      (CallGraph.of units).functions.length) :
    (MetricsReport.of c (CallGraph.of units)).Agrees (CallGraph.of units) := by
  set g := CallGraph.of units
  have hranked : g.ranked.length = g.functions.length := (ranked_perm g).length_eq
  have hmodules : g.modules.length = g.units.length := List.length_map ..
  refine {
    functions := ranked_perm g
    totalFunctions := hranked.symm
    informationFlow := ?flowRows
    functionCounts := hcounts.trans hranked.symm
    totalModules := rfl
    cohesion := ?cohesionRows
    units := hmodules
    totalFanIn := total_functions_eq_sum_ranked g _
    totalFanInByFlow := total_functions_eq_sum_flow g fun _ => rfl
    totalFanOut := total_functions_eq_sum_ranked g _
    totalFanOutByFlow := total_functions_eq_sum_flow g fun _ => rfl
    flows := ?flows }
  case flowRows =>
    simp only [MetricsReport.of, List.length_map]
    exact hranked.symm
  case cohesionRows =>
    simp only [MetricsReport.of, List.length_map]
    exact hmodules.symm
  case flows =>
    intro e he
    obtain ⟨f, hf, rfl⟩ := List.mem_map.1 he
    have hfound := (find?_key_eq_some_iff FunctionFlow.key (CallGraph.functions_pairwise units)).2
      ⟨hf, rfl⟩
    exact ⟨f, hfound, rfl, rfl⟩

/-- **The totals of a report agree with its tables.** For files with distinct paths, whatever their
trees and whatever names are denied, the graph of all their units is built, and the report on it
counts and sums up what its tables hold. -/
theorem totals_agree (c : AnalysisConfig) (denied : List String)
    {files : List (String × Source × Node)} (hpaths : (files.map (·.1)).Nodup) :
    ∃ g, GraphBuilder.fromUnits (unitsOf denied files) = .ok g ∧ g.units = unitsOf denied files ∧
      (MetricsReport.of c g).Agrees g := by
  have hseparate := separateFiles_unitsOf denied hpaths
  have hkeys : ∀ u ∈ unitsOf denied files, u.functions.Pairwise fun f g => f.key ≠ g.key := by
    intro u hu
    obtain ⟨⟨file, src, root⟩, -, rfl⟩ := List.mem_map.1 hu
    exact pairwise_key_ofTree src denied file root
  exact ⟨_, hseparate.fromUnits_eq_of, rfl,
    MetricsReport.of_agrees c (sum_functionCount hseparate hkeys)⟩

/-! ### A function that is written twice -/

namespace Nested

/-- The function `f` stands twice on one line, and so does the unnamed one in it. -/
def twice : Node := .mk { kind := "program", start := 0, stop := 5 } [outer, outer]

def files : List (String × Source × Node) := [("a.js", source, twice), ("b.js", source, root)]

end Nested

/-- Of the six functions that are written, the second `f` of the first file is not counted. -/
theorem totals_agree_twice :
    (Nested.files.map (·.1)).Nodup ∧
      ∃ g, GraphBuilder.fromUnits (unitsOf [] Nested.files) = .ok g ∧
        (MetricsReport.of {} g).summary.totalFunctions = 5 ∧
        ((MetricsReport.of {} g).modules.map (·.functionCount)).sum = 5 ∧
        (MetricsReport.of {} g).Agrees g := by
  have hpaths : (Nested.files.map (·.1)).Nodup := by decide
  obtain ⟨g, hg, -, hagrees⟩ := totals_agree {} [] hpaths
  have hcounts : ((MetricsReport.of {} g).modules.map (·.functionCount)).sum = 5 := by
    rw [GraphBuilder.fromUnits_eq, Except.ok.injEq] at hg
    rw [← hg]
    decide +kernel
  refine ⟨hpaths, g, hg, ?_, hcounts, hagrees⟩
  rw [hagrees.totalFunctions, ← hagrees.functionCounts, hcounts]

end CallFlow
