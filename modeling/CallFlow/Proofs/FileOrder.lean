import Mathlib.Data.Multiset.Basic
import Mathlib.Data.List.Perm.Basic
import CallFlow.Metrics.Report
import CallFlow.Proofs.SeparateFiles

/-!
# The order of files does not matter

Two orders of the same files give graphs and reports that differ only in the order of their lists.
What a graph or a report says apart from order is its `unordered` form, with multisets for lists.

* `CallGraph.unordered_of_perm` — the unordered graph is the same for every order of the units;
* `MetricsReport.unordered_of` — the unordered report depends on the unordered graph alone, for any
  graph at all;
* `report_of_perm` — so both are the same, and so is the entry of each function and of each path.
-/

namespace CallFlow

/-! ## What remains without order -/

/-- The figures of a function without the order of its callers. -/
def FunctionFlow.unordered (f : FunctionFlow) : FunctionFlow × Multiset CallerRef :=
  ({ f with callers := [] }, f.callers)

/-- A graph without the order of its lists. -/
structure UnorderedGraph where
  units : Multiset SourceUnit
  functions : Multiset (FunctionFlow × Multiset CallerRef)
  modules : Multiset ModuleFlow

def CallGraph.unordered (g : CallGraph) : UnorderedGraph :=
  { units := g.units, functions := g.functions.map FunctionFlow.unordered, modules := g.modules }

/-- The coupling of a project without the order of the pairs. -/
def CouplingReport.unordered (r : CouplingReport) : CouplingReport × Multiset CouplingPair :=
  ({ r with pairs := [] }, r.pairs)

/-- A report without the order of its lists. -/
structure UnorderedReport where
  summary : ProjectSummary
  functions : Multiset (FunctionFlow × Multiset CallerRef)
  modules : Multiset ModuleFlow
  coupling : CouplingReport × Multiset CouplingPair
  cohesion : Multiset CohesionScore
  informationFlow : Multiset FlowEntry

def MetricsReport.unordered (r : MetricsReport) : UnorderedReport :=
  { summary := r.summary, functions := r.functions.map FunctionFlow.unordered, modules := r.modules
    coupling := r.coupling.unordered, cohesion := r.cohesion, informationFlow := r.informationFlow }

/-- Identity of the function that an entry is about. -/
def FlowEntry.key (e : FlowEntry) : FunctionKey :=
  ⟨e.file, e.function, e.line⟩

/-! ## The graph -/

theorem total_perm {ms ns : List Nat} (h : ms.Perm ns) : total ms = total ns := by
  induction h with
  | nil => rfl
  | cons n _ ih => rw [total, total, ih]
  | swap m n ns => simp only [total, Nat.add_left_comm]
  | trans _ _ ih ih' => rw [ih, ih']

section Graph

variable {units units' : List SourceUnit}

theorem distinctFunctions_perm (h : SeparateFiles units) (hperm : units.Perm units') :
    (distinctFunctions units).Perm (distinctFunctions units') := by
  rw [h.distinctFunctions_eq, (h.perm hperm).distinctFunctions_eq]
  exact hperm.flatMap_right _

theorem callersOf_perm (hperm : units.Perm units') (f : FunctionRecord) :
    (callersOf units f).Perm (callersOf units' f) :=
  eraseDups_perm ((hperm.flatMap_right _).append (hperm.flatMap_right _))

/-- A function has the same figures and the same callers. -/
theorem FunctionFlow.unordered_of_perm (hperm : units.Perm units') (f : FunctionRecord) :
    (FunctionFlow.of units f).unordered = (FunctionFlow.of units' f).unordered := by
  have hcallers := callersOf_perm hperm f
  refine Prod.ext ?_ (Multiset.coe_eq_coe.2 hcallers)
  simp only [unordered, of, ofCallers, hcallers.length_eq]

theorem ModuleFlow.of_perm (hperm : units.Perm units') (u : SourceUnit) :
    ModuleFlow.of units u = ModuleFlow.of units' u := by
  have hincoming : incomingMentions units u = incomingMentions units' u :=
    total_perm ((hperm.filter _).map _)
  rw [ModuleFlow.of, ModuleFlow.of, hincoming]

theorem map_unordered_perm (h : SeparateFiles units) (hperm : units.Perm units') :
    ((CallGraph.of units).functions.map FunctionFlow.unordered).Perm
      ((CallGraph.of units').functions.map FunctionFlow.unordered) := by
  have hflows : (distinctFunctions units').map (fun f => (FunctionFlow.of units f).unordered) =
      (distinctFunctions units').map fun f => (FunctionFlow.of units' f).unordered :=
    List.map_congr_left fun f _ => FunctionFlow.unordered_of_perm hperm f
  simp only [CallGraph.of, List.map_map, Function.comp_def]
  rw [← hflows]
  exact (distinctFunctions_perm h hperm).map _

theorem modules_perm (hperm : units.Perm units') :
    (CallGraph.of units).modules.Perm (CallGraph.of units').modules := by
  have hflows : units'.map (ModuleFlow.of units) = units'.map (ModuleFlow.of units') :=
    List.map_congr_left fun u _ => ModuleFlow.of_perm hperm u
  simp only [CallGraph.of]
  rw [← hflows]
  exact hperm.map _

/-- The graph says the same for every order of the units. -/
theorem CallGraph.unordered_of_perm (h : SeparateFiles units) (hperm : units.Perm units') :
    (CallGraph.of units).unordered = (CallGraph.of units').unordered := by
  have hunits : ((CallGraph.of units).units : Multiset SourceUnit) = (CallGraph.of units').units :=
    Multiset.coe_eq_coe.2 hperm
  have hfunctions := Multiset.coe_eq_coe.2 (map_unordered_perm h hperm)
  have hmodules := Multiset.coe_eq_coe.2 (modules_perm hperm)
  rw [unordered, unordered, hunits, hfunctions, hmodules]

end Graph

/-! ## Coupling -/

section Coupling

variable {units units' : List SourceUnit}

/-- Of two units the one with the smaller path comes first, wherever they stand. -/
theorem moduleCounts_perm (hperm : units.Perm units') :
    (moduleCounts units).Perm (moduleCounts units') :=
  hperm.flatMap fun _ _ => (hperm.filter _).map _

theorem couplingCounts_of_ne_singleton (c : AnalysisConfig) (h : ∀ u, units ≠ [u]) :
    couplingCounts c units = (false, moduleCounts units) := by
  rcases units with _ | ⟨u, _ | ⟨v, rest⟩⟩
  · rfl
  · exact absurd rfl (h u)
  · rfl

theorem couplingCounts_perm (c : AnalysisConfig) (hperm : units.Perm units') :
    (couplingCounts c units).1 = (couplingCounts c units').1 ∧
      (couplingCounts c units).2.Perm (couplingCounts c units').2 := by
  by_cases hone : ∃ u, units = [u]
  · -- a single unit has only one order
    obtain ⟨u, rfl⟩ := hone
    rw [List.singleton_perm.1 hperm]
    exact ⟨rfl, List.Perm.refl _⟩
  · have hmany : ∀ u, units ≠ [u] := fun u hu => hone ⟨u, hu⟩
    have hmany' : ∀ u, units' ≠ [u] := fun u hu => hmany u (List.perm_singleton.1 (hu ▸ hperm))
    rw [couplingCounts_of_ne_singleton c hmany, couplingCounts_of_ne_singleton c hmany']
    exact ⟨rfl, moduleCounts_perm hperm⟩

theorem CouplingReport.unordered_of_perm (c : AnalysisConfig) (hperm : units.Perm units') :
    (CouplingReport.of c units).unordered = (CouplingReport.of c units').unordered := by
  obtain ⟨hgroup, hcounts⟩ := couplingCounts_perm c hperm
  have hpairs : (CouplingReport.of c units).pairs.Perm (CouplingReport.of c units').pairs :=
    (hcounts.filter _).map _
  have htight : (CouplingReport.of c units).tight = (CouplingReport.of c units').tight :=
    hpairs.countP_eq _
  have hloose : (CouplingReport.of c units).loose = (CouplingReport.of c units').loose :=
    congrArg₂ (· - ·) hpairs.length_eq htight
  have hbyGroup : (CouplingReport.of c units).byGroup = (CouplingReport.of c units').byGroup :=
    hgroup
  rw [unordered, unordered, hbyGroup, htight, hloose, Multiset.coe_eq_coe.2 hpairs]

end Coupling

/-! ## The report -/

section Report

variable {g g' : CallGraph}

/-- What is computed from each function without its callers is computed from the unordered form. -/
theorem map_functions_perm {β : Type} {figure : FunctionFlow → β}
    (hfigure : ∀ f, figure f.unordered.1 = figure f)
    (hperm : (g.functions.map FunctionFlow.unordered).Perm
      (g'.functions.map FunctionFlow.unordered)) :
    (g.functions.map figure).Perm (g'.functions.map figure) := by
  have hmap := hperm.map fun f => figure f.1
  simpa only [List.map_map, Function.comp_def, hfigure] using hmap

theorem ProjectSummary.of_perm
    (hfunctions : (g.functions.map FunctionFlow.unordered).Perm
      (g'.functions.map FunctionFlow.unordered))
    (hmodules : g.modules.Perm g'.modules) : ProjectSummary.of g = ProjectSummary.of g' := by
  have hcount : g.functions.length = g'.functions.length := by
    simpa only [List.length_map] using hfunctions.length_eq
  have hfanIn : total (g.functions.map (·.fanIn)) = total (g'.functions.map (·.fanIn)) :=
    total_perm (map_functions_perm (fun _ => rfl) hfunctions)
  have hfanOut : total (g.functions.map (·.fanOut)) = total (g'.functions.map (·.fanOut)) :=
    total_perm (map_functions_perm (fun _ => rfl) hfunctions)
  rw [ProjectSummary.of, ProjectSummary.of, hcount, hfanIn, hfanOut, hmodules.length_eq]

/-- Ranking the functions changes only their order. -/
theorem ranked_perm (g : CallGraph) : g.ranked.Perm g.functions :=
  List.mergeSort_perm _ _

/-- All metrics but their order depend on the graph without its order. -/
theorem MetricsReport.unordered_of (c : AnalysisConfig) (h : g.unordered = g'.unordered) :
    (MetricsReport.of c g).unordered = (MetricsReport.of c g').unordered := by
  have hunits : g.units.Perm g'.units :=
    Multiset.coe_eq_coe.1 (congrArg UnorderedGraph.units h)
  have hfunctions : (g.functions.map FunctionFlow.unordered).Perm
      (g'.functions.map FunctionFlow.unordered) :=
    Multiset.coe_eq_coe.1 (congrArg UnorderedGraph.functions h)
  have hmodules : g.modules.Perm g'.modules :=
    Multiset.coe_eq_coe.1 (congrArg UnorderedGraph.modules h)
  have hranked : (g.ranked.map FunctionFlow.unordered).Perm
      (g'.ranked.map FunctionFlow.unordered) :=
    ((ranked_perm g).map _).trans (hfunctions.trans ((ranked_perm g').map _).symm)
  have hflow : (g.functions.map FlowEntry.of).Perm (g'.functions.map FlowEntry.of) :=
    map_functions_perm (fun _ => rfl) hfunctions
  simp only [MetricsReport.of, unordered]
  rw [ProjectSummary.of_perm hfunctions hmodules, CouplingReport.unordered_of_perm c hunits,
    Multiset.coe_eq_coe.2 hranked, Multiset.coe_eq_coe.2 hmodules,
    Multiset.coe_eq_coe.2 (hunits.map (CohesionScore.of c)), Multiset.coe_eq_coe.2 hflow]

end Report

/-! ## Entries by key -/

theorem CohesionScore.path_of (c : AnalysisConfig) (u : SourceUnit) :
    (CohesionScore.of c u).path = u.path := by
  rw [CohesionScore.of]
  split <;> rfl

section Entries

variable {units units' : List SourceUnit}

theorem function?_of_perm (h : SeparateFiles units) (hperm : units.Perm units') (k : FunctionKey) :
    ((CallGraph.of units).function? k).map FunctionFlow.unordered =
      ((CallGraph.of units').function? k).map FunctionFlow.unordered := by
  -- the search looks at nothing that depends on order
  have hsearch (g : CallGraph) : (g.function? k).map FunctionFlow.unordered =
      (g.functions.map FunctionFlow.unordered).find? (·.1.key == k) := by
    rw [List.find?_map]
    rfl
  rw [hsearch, hsearch]
  refine find?_key_perm (fun f : FunctionFlow × Multiset CallerRef => f.1.key) ?_
    (map_unordered_perm h hperm) k
  exact List.pairwise_map.2 (CallGraph.functions_pairwise units)

theorem module?_of_perm (h : SeparateFiles units) (hperm : units.Perm units') (p : String) :
    (CallGraph.of units).module? p = (CallGraph.of units').module? p :=
  find?_key_perm ModuleFlow.path (List.pairwise_map.2 h.paths) (modules_perm hperm) p

theorem find?_cohesion_of_perm (c : AnalysisConfig) (h : SeparateFiles units)
    (hperm : units.Perm units') (p : String) :
    (units.map (CohesionScore.of c)).find? (·.path == p) =
      (units'.map (CohesionScore.of c)).find? (·.path == p) := by
  refine find?_key_perm CohesionScore.path (List.pairwise_map.2 ?_) (hperm.map _) p
  simpa only [CohesionScore.path_of] using h.paths

theorem find?_flowEntry_of_perm (h : SeparateFiles units) (hperm : units.Perm units')
    (k : FunctionKey) :
    ((CallGraph.of units).functions.map FlowEntry.of).find? (·.key == k) =
      ((CallGraph.of units').functions.map FlowEntry.of).find? (·.key == k) :=
  find?_key_perm FlowEntry.key (List.pairwise_map.2 (CallGraph.functions_pairwise units))
    (map_functions_perm (fun _ => rfl) (map_unordered_perm h hperm)) k

end Entries

/-- **The order of files does not matter.** For units of separate files, given in any two orders,
the graphs are built and agree up to the order of their lists, and so do the reports; each function
has the same figures, callers and complexity, and each path the same figures and cohesion. -/
theorem report_of_perm (c : AnalysisConfig) {units units' : List SourceUnit}
    (h : SeparateFiles units) (hperm : units.Perm units') :
    ∃ g g', GraphBuilder.fromUnits units = .ok g ∧ GraphBuilder.fromUnits units' = .ok g' ∧
      g.unordered = g'.unordered ∧
      (MetricsReport.of c g).unordered = (MetricsReport.of c g').unordered ∧
      (∀ k, (g.function? k).map FunctionFlow.unordered =
        (g'.function? k).map FunctionFlow.unordered) ∧
      (∀ k, (MetricsReport.of c g).informationFlow.find? (·.key == k) =
        (MetricsReport.of c g').informationFlow.find? (·.key == k)) ∧
      (∀ p, g.module? p = g'.module? p) ∧
      ∀ p, (MetricsReport.of c g).cohesion.find? (·.path == p) =
        (MetricsReport.of c g').cohesion.find? (·.path == p) := by
  have hgraph := CallGraph.unordered_of_perm h hperm
  exact ⟨_, _, h.fromUnits_eq_of, (h.perm hperm).fromUnits_eq_of, hgraph,
    MetricsReport.unordered_of c hgraph, function?_of_perm h hperm,
    find?_flowEntry_of_perm h hperm, module?_of_perm h hperm, find?_cohesion_of_perm c h hperm⟩

/-! ### Three files in reverse order -/

namespace Reversed

def function (file name : String) (calls : List String) : FunctionRecord :=
  { name := name, file := file, moduleName := name, calls := calls, directCalls := calls
    line := 1, endLine := 1, kind := .declaration }

def unit (file name : String) (calls : List String) : SourceUnit :=
  { path := file, moduleName := name, functions := [function file name calls]
    calls := calls.map fun target =>
      { file := file, caller := some name, target := target, line := 1, kind := .direct } }

/-- The function `f` is called from two other files. -/
def units : List SourceUnit :=
  [unit "a.js" "f" [], unit "b.js" "g" ["f"], unit "c.js" "h" ["g", "f"]]

end Reversed

theorem report_of_perm_reversed :
    SeparateFiles Reversed.units ∧ Reversed.units.Perm Reversed.units.reverse ∧
      ∃ g g', GraphBuilder.fromUnits Reversed.units = .ok g ∧
        GraphBuilder.fromUnits Reversed.units.reverse = .ok g' ∧
        (g.function? ⟨"a.js", "f", 1⟩).map (·.callers) ≠
          (g'.function? ⟨"a.js", "f", 1⟩).map (·.callers) ∧
        (g.function? ⟨"a.js", "f", 1⟩).map (·.unordered) =
          (g'.function? ⟨"a.js", "f", 1⟩).map (·.unordered) ∧
        (MetricsReport.of {} g).unordered = (MetricsReport.of {} g').unordered := by
  have hseparate : SeparateFiles Reversed.units := ⟨by decide, by decide⟩
  have hperm : Reversed.units.Perm Reversed.units.reverse := (List.reverse_perm _).symm
  obtain ⟨g, g', hg, hg', -, hreport, hfunction, -⟩ := report_of_perm {} hseparate hperm
  refine ⟨hseparate, hperm, g, g', hg, hg', ?_, hfunction _, hreport⟩
  rw [GraphBuilder.fromUnits_eq, Except.ok.injEq] at hg hg'
  rw [← hg, ← hg']
  decide +kernel

end CallFlow
