import CallFlow.Proofs.FileOrder

/-!
# Figures do not depend on where a project lies

A path tells a file from other files, and its order among the paths tells which of two modules is
named first. Nothing else is made of its text. So when every path is replaced by another one, one to
one and without a change of order, the graph and the report stay as they are except for the paths
in them.

* `FunctionKey.relocate_injective`, `CallerRef.relocate_injective` — what is told apart by paths is
  still told apart;
* `CallGraph.ofUnits_relocate` — the graph is relocated, without regard to the order of paths;
* `MetricsReport.of_relocate` — and so is the report, if the order is kept;
* `report_relocated` — the two together, from the units on.
-/

namespace CallFlow

/-! ## Other paths for the same files -/

def FunctionKey.relocate (move : String → String) (k : FunctionKey) : FunctionKey :=
  { k with file := move k.file }

def FunctionRecord.relocate (move : String → String) (f : FunctionRecord) : FunctionRecord :=
  { f with file := move f.file }

def CallRecord.relocate (move : String → String) (c : CallRecord) : CallRecord :=
  { c with file := move c.file }

/-- The unit of a file with another path. Its functions and calls go with it. -/
def SourceUnit.relocate (move : String → String) (u : SourceUnit) : SourceUnit :=
  { u with
    path := move u.path
    functions := u.functions.map (FunctionRecord.relocate move)
    calls := u.calls.map (CallRecord.relocate move) }

def CallerRef.relocate (move : String → String) (r : CallerRef) : CallerRef :=
  { r with file := move r.file }

def FunctionFlow.relocate (move : String → String) (f : FunctionFlow) : FunctionFlow :=
  { f with file := move f.file, callers := f.callers.map (CallerRef.relocate move) }

def ModuleFlow.relocate (move : String → String) (m : ModuleFlow) : ModuleFlow :=
  { m with path := move m.path }

/-- The graph with other paths and the same figures. -/
def CallGraph.relocate (move : String → String) (g : CallGraph) : CallGraph :=
  { units := g.units.map (SourceUnit.relocate move)
    functions := g.functions.map (FunctionFlow.relocate move)
    modules := g.modules.map (ModuleFlow.relocate move) }

def CohesionScore.relocate (move : String → String) (s : CohesionScore) : CohesionScore :=
  { s with path := move s.path }

def FlowEntry.relocate (move : String → String) (e : FlowEntry) : FlowEntry :=
  { e with file := move e.file }

/-- The report with other paths and the same figures. Summary and coupling name no paths. -/
def MetricsReport.relocate (move : String → String) (r : MetricsReport) : MetricsReport :=
  { r with
    functions := r.functions.map (FunctionFlow.relocate move)
    modules := r.modules.map (ModuleFlow.relocate move)
    cohesion := r.cohesion.map (CohesionScore.relocate move)
    informationFlow := r.informationFlow.map (FlowEntry.relocate move) }

section Graph

variable {move : String → String} (hmove : Function.Injective move)
include hmove

theorem FunctionKey.relocate_injective : Function.Injective (FunctionKey.relocate move) := by
  rintro ⟨file, name, line⟩ ⟨file', name', line'⟩ heq
  simp only [relocate, FunctionKey.mk.injEq] at heq ⊢
  exact ⟨hmove heq.1, heq.2⟩

theorem CallerRef.relocate_injective : Function.Injective (CallerRef.relocate move) := by
  rintro ⟨file, name, line⟩ ⟨file', name', line'⟩ heq
  simp only [relocate, CallerRef.mk.injEq] at heq ⊢
  exact ⟨hmove heq.1, heq.2⟩

theorem FunctionRecord.key_beq_relocate (f g : FunctionRecord) :
    ((f.relocate move).key == (g.relocate move).key) = (f.key == g.key) :=
  (FunctionKey.relocate_injective hmove).beq_eq (a := f.key) (b := g.key)

/-! ## Functions -/

theorem distinctFunctions_relocate (units : List SourceUnit) :
    distinctFunctions (units.map (SourceUnit.relocate move)) =
      (distinctFunctions units).map (FunctionRecord.relocate move) := by
  have hall : (units.map (SourceUnit.relocate move)).flatMap (·.functions) =
      (units.flatMap (·.functions)).map (FunctionRecord.relocate move) := by
    rw [List.flatMap_map, List.map_flatMap]
    rfl
  rw [distinctFunctions_eq_firstOfEach, distinctFunctions_eq_firstOfEach, hall]
  exact firstOfEach_map FunctionRecord.key (k := FunctionRecord.key)
    (FunctionKey.relocate_injective hmove) (fun _ => rfl) _

theorem unitCallers_relocate (f : FunctionRecord) (u : SourceUnit) :
    unitCallers (f.relocate move) (u.relocate move) =
      (unitCallers f u).map (CallerRef.relocate move) := by
  have hholds : (u.relocate move).functions.any (·.key == (f.relocate move).key) =
      u.functions.any (·.key == f.key) := by
    simp only [SourceUnit.relocate, List.any_map, Function.comp_def,
      FunctionRecord.key_beq_relocate hmove]
  have hcallers : ((u.relocate move).functions.filter fun g =>
      g.key != (f.relocate move).key && g.calls.contains (f.relocate move).name) =
        (u.functions.filter fun g => g.key != f.key && g.calls.contains f.name).map
          (FunctionRecord.relocate move) := by
    simp only [SourceUnit.relocate, List.filter_map, Function.comp_def, bne,
      FunctionRecord.key_beq_relocate hmove]
    rfl
  rw [unitCallers, unitCallers, hholds, hcallers]
  split
  · rw [List.map_map, List.map_map]
    rfl
  · rfl

theorem fileCallers_relocate (f : FunctionRecord) (u : SourceUnit) :
    fileCallers (f.relocate move) (u.relocate move) =
      (fileCallers f u).map (CallerRef.relocate move) := by
  have hcalls : ((u.relocate move).calls.filter fun c =>
      c.target == (f.relocate move).name && c.file != (f.relocate move).file) =
        (u.calls.filter fun c => c.target == f.name && c.file != f.file).map
          (CallRecord.relocate move) := by
    simp only [SourceUnit.relocate, List.filter_map, Function.comp_def, bne, CallRecord.relocate,
      FunctionRecord.relocate, hmove.beq_eq]
  rw [fileCallers, fileCallers, hcalls, List.map_map, List.map_map]
  rfl

theorem callersOf_relocate (units : List SourceUnit) (f : FunctionRecord) :
    callersOf (units.map (SourceUnit.relocate move)) (f.relocate move) =
      (callersOf units f).map (CallerRef.relocate move) := by
  rw [callersOf, callersOf, ← eraseDups_map (CallerRef.relocate_injective hmove), List.map_append,
    List.flatMap_map, List.flatMap_map, List.map_flatMap, List.map_flatMap]
  simp only [unitCallers_relocate hmove, fileCallers_relocate hmove]

theorem FunctionFlow.of_relocate (units : List SourceUnit) (f : FunctionRecord) :
    FunctionFlow.of (units.map (SourceUnit.relocate move)) (f.relocate move) =
      (FunctionFlow.of units f).relocate move := by
  rw [FunctionFlow.of, callersOf_relocate hmove]
  simp only [FunctionFlow.of, ofCallers, relocate, FunctionRecord.relocate, List.length_map]

/-! ## Modules -/

theorem internalPairs_relocate (u : SourceUnit) :
    (u.relocate move).internalPairs = u.internalPairs := by
  simp only [SourceUnit.internalPairs, SourceUnit.relocate, List.flatMap_map, List.filter_map,
    List.map_map, Function.comp_def, bne, FunctionRecord.key_beq_relocate hmove]
  rfl

theorem incomingMentions_relocate (units : List SourceUnit) (u : SourceUnit) :
    incomingMentions (units.map (SourceUnit.relocate move)) (u.relocate move) =
      incomingMentions units u := by
  have hcount (target : String) :
      (u.relocate move).mentionCount target = u.mentionCount target := by
    rw [SourceUnit.mentionCount, SourceUnit.relocate, List.countP_map]
    rfl
  have hothers : (units.map (SourceUnit.relocate move)).filter (·.path != (u.relocate move).path) =
      (units.filter (·.path != u.path)).map (SourceUnit.relocate move) := by
    simp only [List.filter_map, Function.comp_def, bne, SourceUnit.relocate, hmove.beq_eq]
  have hcalls (v : SourceUnit) :
      total ((v.relocate move).calls.map fun c => (u.relocate move).mentionCount c.target) =
        total (v.calls.map fun c => u.mentionCount c.target) := by
    simp only [hcount]
    rw [SourceUnit.relocate, List.map_map]
    rfl
  rw [incomingMentions, incomingMentions, hothers, List.map_map]
  simp only [Function.comp_def, hcalls]

omit hmove in
theorem externalTargets_relocate (move : String → String) (u : SourceUnit) :
    (u.relocate move).externalTargets = u.externalTargets := by
  have hdefines : (u.relocate move).definesName = u.definesName := by
    funext name
    rw [SourceUnit.definesName, SourceUnit.relocate, List.any_map]
    rfl
  have howns : (u.relocate move).owns = u.owns := by
    funext target
    rw [SourceUnit.owns, SourceUnit.owns, hdefines]
  rw [SourceUnit.externalTargets, howns, SourceUnit.relocate, List.filter_map, List.map_map]
  rfl

theorem ModuleFlow.of_relocate (units : List SourceUnit) (u : SourceUnit) :
    ModuleFlow.of (units.map (SourceUnit.relocate move)) (u.relocate move) =
      (ModuleFlow.of units u).relocate move := by
  simp only [ModuleFlow.of, ModuleFlow.relocate, incomingMentions_relocate hmove,
    internalPairs_relocate hmove, externalTargets_relocate]
  simp only [SourceUnit.relocate, List.length_map]

/-! ## The graph -/

theorem CallGraph.of_relocate (units : List SourceUnit) :
    CallGraph.of (units.map (SourceUnit.relocate move)) = (CallGraph.of units).relocate move := by
  simp only [CallGraph.of, CallGraph.relocate, distinctFunctions_relocate hmove, List.map_map,
    Function.comp_def, FunctionFlow.of_relocate hmove, ModuleFlow.of_relocate hmove]

theorem keptUnits_relocate (units : List SourceUnit) :
    keptUnits (units.map (SourceUnit.relocate move)) =
      (keptUnits units).map (SourceUnit.relocate move) := by
  rw [keptUnits_eq_firstOfEach, keptUnits_eq_firstOfEach]
  exact firstOfEach_map SourceUnit.path (k := SourceUnit.path) hmove (fun _ => rfl) units

/-- The graph of relocated units is the relocated graph. -/
theorem CallGraph.ofUnits_relocate (units : List SourceUnit) :
    CallGraph.ofUnits (units.map (SourceUnit.relocate move)) =
      (CallGraph.ofUnits units).relocate move := by
  rw [ofUnits, keptUnits_relocate hmove, of_relocate hmove]
  rfl

end Graph

/-! ## Coupling -/

section Metrics

variable {move : String → String}

theorem callsInto_relocate (u : SourceUnit) (moduleName : String) :
    callsInto (u.relocate move) moduleName = callsInto u moduleName := by
  rw [callsInto, SourceUnit.relocate, List.countP_map]
  rfl

/-- The pairs of modules, if the order of their paths is kept. -/
theorem moduleCounts_relocate {units : List SourceUnit}
    (horder : ∀ u ∈ units, ∀ v ∈ units, u.path < v.path ↔ move u.path < move v.path) :
    moduleCounts (units.map (SourceUnit.relocate move)) = moduleCounts units := by
  rw [moduleCounts, moduleCounts, List.flatMap_map]
  refine List.flatMap_congr fun u hu => ?_
  have hlater : (units.map (SourceUnit.relocate move)).filter
      (decide <| (u.relocate move).path < ·.path) =
        (units.filter (decide <| u.path < ·.path)).map (SourceUnit.relocate move) := by
    rw [List.filter_map]
    refine congrArg (List.map _ ·) (List.filter_congr fun v hv => ?_)
    exact decide_eq_decide.2 (horder u hu v hv).symm
  rw [hlater, List.map_map]
  simp only [Function.comp_def, callsInto_relocate]
  rfl

theorem groupCounts_relocate (c : AnalysisConfig) (u : SourceUnit) :
    groupCounts c (u.relocate move) = groupCounts c u := by
  have hcalls (first second : List String) :
      groupCalls (u.relocate move) first second = groupCalls u first second := by
    rw [groupCalls, SourceUnit.relocate, List.filter_map, List.map_map]
    rfl
  simp only [groupCounts, hcalls]

theorem couplingCounts_relocate (c : AnalysisConfig) {units : List SourceUnit}
    (horder : ∀ u ∈ units, ∀ v ∈ units, u.path < v.path ↔ move u.path < move v.path) :
    couplingCounts c (units.map (SourceUnit.relocate move)) = couplingCounts c units := by
  rcases units with _ | ⟨u, _ | ⟨v, rest⟩⟩
  · rfl
  · exact congrArg (Prod.mk true) (groupCounts_relocate c u)
  · exact congrArg (Prod.mk false) (moduleCounts_relocate horder)

/-! ## Cohesion -/

theorem pairsOf_map {α β : Type} (f : α → β) (xs : List α) :
    pairsOf (xs.map f) = (pairsOf xs).map (Prod.map f f) := by
  induction xs with
  | nil => rfl
  | cons x xs ih =>
    rw [List.map_cons, pairsOf, pairsOf, ih, List.map_append, List.map_map, List.map_map]
    rfl

theorem relatedCount_relocate (keywords : List String) (fs : List FunctionRecord) :
    relatedCount keywords (fs.map (FunctionRecord.relocate move)) = relatedCount keywords fs := by
  rw [relatedCount, pairsOf_map, List.countP_map]
  rfl

theorem CohesionScore.of_relocate (c : AnalysisConfig) (u : SourceUnit) :
    CohesionScore.of c (u.relocate move) = (CohesionScore.of c u).relocate move := by
  have hfunctions : (u.relocate move).functions =
      u.functions.map (FunctionRecord.relocate move) := rfl
  rw [CohesionScore.of, CohesionScore.of, hfunctions]
  rcases u.functions with _ | ⟨f, _ | ⟨g, fs⟩⟩
  · rfl
  · rfl
  · simp only [List.map_cons]
    rw [← List.map_cons, ← List.map_cons, relatedCount_relocate, pairsOf_map, List.length_map]
    rfl

/-! ## The report -/

theorem ranked_relocate (g : CallGraph) :
    (g.relocate move).ranked = g.ranked.map (FunctionFlow.relocate move) :=
  (List.map_mergeSort (f := FunctionFlow.relocate move) (r := FunctionFlow.ranksBefore)
    fun _ _ _ _ => rfl).symm

theorem ProjectSummary.of_relocate (g : CallGraph) :
    ProjectSummary.of (g.relocate move) = ProjectSummary.of g := by
  simp only [ProjectSummary.of, CallGraph.relocate, List.length_map, List.map_map]
  rfl

/-- The report on a relocated graph is the relocated report, if the order of paths is kept. -/
theorem MetricsReport.of_relocate (c : AnalysisConfig) {g : CallGraph}
    (horder : ∀ u ∈ g.units, ∀ v ∈ g.units, u.path < v.path ↔ move u.path < move v.path) :
    MetricsReport.of c (g.relocate move) = (MetricsReport.of c g).relocate move := by
  have hcoupling : CouplingReport.of c (g.relocate move).units = CouplingReport.of c g.units := by
    rw [CouplingReport.of, CallGraph.relocate, couplingCounts_relocate c horder]
    rfl
  have hcohesion : (g.relocate move).units.map (CohesionScore.of c) =
      (g.units.map (CohesionScore.of c)).map (CohesionScore.relocate move) := by
    simp only [CallGraph.relocate, List.map_map, Function.comp_def, CohesionScore.of_relocate]
  have hflow : (g.relocate move).functions.map FlowEntry.of =
      (g.functions.map FlowEntry.of).map (FlowEntry.relocate move) := by
    simp only [CallGraph.relocate, List.map_map]
    rfl
  simp only [MetricsReport.of, MetricsReport.relocate, ProjectSummary.of_relocate, ranked_relocate,
    hcoupling, hcohesion, hflow]
  rfl

end Metrics

/-- A map that keeps the order of some paths never turns it round. -/
theorem lt_iff_of_keeps_order {move : String → String} {p q : String}
    (hpq : p < q → move p < move q) (hqp : q < p → move q < move p) :
    p < q ↔ move p < move q := by
  refine ⟨hpq, fun hlt => ?_⟩
  by_contra hnot
  by_cases hless : q < p
  · exact String.lt_asymm hlt (hqp hless)
  · have heq : p = q := String.le_antisymm (String.not_lt.1 hless) (String.not_lt.1 hnot)
    rw [heq] at hlt
    exact String.lt_irrefl _ hlt

/-- **Figures do not depend on where a project lies.** Let every path be replaced by another one,
one to one, so that the paths of the units keep their order. Then both graphs are built, and the
second graph and the report on it are the first ones with the paths replaced. -/
theorem report_relocated (c : AnalysisConfig) {move : String → String}
    (hmove : Function.Injective move) {units : List SourceUnit}
    (horder : ∀ u ∈ units, ∀ v ∈ units, u.path < v.path → move u.path < move v.path) :
    ∃ g, GraphBuilder.fromUnits units = .ok g ∧
      GraphBuilder.fromUnits (units.map (SourceUnit.relocate move)) = .ok (g.relocate move) ∧
      MetricsReport.of c (g.relocate move) = (MetricsReport.of c g).relocate move := by
  have hgraph : GraphBuilder.fromUnits (units.map (SourceUnit.relocate move)) =
      .ok ((CallGraph.ofUnits units).relocate move) := by
    rw [GraphBuilder.fromUnits_eq, CallGraph.ofUnits_relocate hmove]
  refine ⟨_, GraphBuilder.fromUnits_eq units, hgraph, MetricsReport.of_relocate c ?_⟩
  intro u hu v hv
  -- the units of the graph are among those that were given
  have hgiven {w : SourceUnit} (hw : w ∈ (CallGraph.ofUnits units).units) : w ∈ units := by
    have hkept : (CallGraph.ofUnits units).units = firstOfEach SourceUnit.path units :=
      keptUnits_eq_firstOfEach units
    rw [hkept] at hw
    exact (firstOfEach_sublist SourceUnit.path units).subset hw
  exact lt_iff_of_keeps_order (horder u (hgiven hu) v (hgiven hv))
    (horder v (hgiven hv) u (hgiven hu))

/-! ### A project in a directory of its own -/

namespace Reversed

/-- The path of the same file when the project lies in `lib`. -/
def inLib (path : String) : String := "lib/" ++ path

theorem inLib_injective : Function.Injective inLib := by
  intro p q heq
  have hchars := congrArg String.toList heq
  rw [inLib, inLib, String.toList_append, String.toList_append] at hchars
  exact String.toList_injective (List.append_cancel_left hchars)

end Reversed

theorem report_relocated_inLib :
    Function.Injective Reversed.inLib ∧
      (∀ u ∈ Reversed.units, ∀ v ∈ Reversed.units,
        u.path < v.path → Reversed.inLib u.path < Reversed.inLib v.path) ∧
      ∃ g g', GraphBuilder.fromUnits Reversed.units = .ok g ∧
        GraphBuilder.fromUnits (Reversed.units.map (SourceUnit.relocate Reversed.inLib)) = .ok g' ∧
        (g.function? ⟨"a.js", "f", 1⟩).map (·.callers) =
          some [CallerRef.ofFile "b.js", CallerRef.ofFile "c.js"] ∧
        (g'.function? ⟨"lib/a.js", "f", 1⟩).map (·.callers) =
          some [CallerRef.ofFile "lib/b.js", CallerRef.ofFile "lib/c.js"] ∧
        MetricsReport.of {} g' = (MetricsReport.of {} g).relocate Reversed.inLib := by
  have horder : ∀ u ∈ Reversed.units, ∀ v ∈ Reversed.units,
      u.path < v.path → Reversed.inLib u.path < Reversed.inLib v.path := by
    decide +kernel
  obtain ⟨g, hg, hg', hreport⟩ := report_relocated {} Reversed.inLib_injective horder
  refine ⟨Reversed.inLib_injective, horder, g, _, hg, hg', ?_, ?_, hreport⟩
  · rw [GraphBuilder.fromUnits_eq, Except.ok.injEq] at hg
    rw [← hg]
    decide +kernel
  · rw [GraphBuilder.fromUnits_eq, Except.ok.injEq] at hg'
    rw [← hg']
    decide +kernel

end CallFlow
