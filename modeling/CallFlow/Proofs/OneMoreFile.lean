import CallFlow.Metrics.Report
import CallFlow.Proofs.FanIn
import CallFlow.Proofs.Mentions
import CallFlow.Proofs.SeparateFiles

/-!
# The effect of one more file

The figures of a project are computed from all units at once. Still, one more unit `u` at the end
changes what is known of the earlier ones by an amount that can be read off `u` alone:

* `callersOf_append` — a function gains the file of `u` as its last caller if `u` records a call of
  it, and keeps the callers it has;
* `ModuleFlow.of_append` — a module gains one mention for each call of `u` and each function of the
  module that the call mentions;
* `graph_one_more_file` — nothing else changes for them.
-/

namespace CallFlow

variable {units : List SourceUnit} {u : SourceUnit}

theorem OwnFiles.of_append (h : OwnFiles (units ++ [u])) : OwnFiles units where
  paths := (List.pairwise_append.1 h.paths).1
  functions := fun v hv => h.functions v (List.mem_append_left _ hv)
  calls := fun v hv => h.calls v (List.mem_append_left _ hv)

theorem SeparateFiles.path_ne (h : SeparateFiles (units ++ [u])) {v : SourceUnit} (hv : v ∈ units) :
    v.path ≠ u.path :=
  (List.pairwise_append.1 h.paths).2.2 v hv u (List.mem_singleton_self u)

/-! ## Callers -/

/-- A unit that does not hold a function has no functions that call it. -/
theorem unitCallers_eq_nil {f : FunctionRecord} (h : ∀ g ∈ u.functions, g.key ≠ f.key) :
    unitCallers f u = [] := by
  have hnone : ¬u.functions.any (·.key == f.key) = true := by
    simpa using h
  rw [unitCallers, if_neg hnone]

/-- All calls of a function from another file come from that one file. -/
theorem eraseDups_fileCallers {f : FunctionRecord} (hcalls : ∀ c ∈ u.calls, c.file = u.path)
    (hfile : f.file ≠ u.path) :
    (fileCallers f u).eraseDups =
      if ∃ c ∈ u.calls, c.target = f.name then [CallerRef.ofFile u.path] else [] := by
  have hall : ∀ r ∈ fileCallers f u, r = CallerRef.ofFile u.path := by
    intro r hr
    obtain ⟨c, hc, -, -, rfl⟩ := mem_fileCallers_iff.1 hr
    rw [hcalls c hc]
    rfl
  by_cases hcalled : ∃ c ∈ u.calls, c.target = f.name
  · obtain ⟨c, hc, htarget⟩ := hcalled
    have hne : c.file ≠ f.file := by
      rw [hcalls c hc]
      exact hfile.symm
    have hmem : (CallerKey.file c.file).ref ∈ fileCallers f u :=
      mem_fileCallers_iff.2 ⟨c, hc, hne, htarget, rfl⟩
    -- a list of copies of one reference, with at least one of them
    obtain ⟨rest, hrest⟩ : ∃ rest, fileCallers f u = CallerRef.ofFile u.path :: rest := by
      cases hcallers : fileCallers f u with
      | nil => simp [hcallers] at hmem
      | cons r rest => exact ⟨rest, by rw [hall r (by simp [hcallers])]⟩
    have hcopies : ∀ r ∈ rest, r ∈ [CallerRef.ofFile u.path] := by
      intro r hr
      rw [List.mem_singleton]
      exact hall r (by simp [hrest, hr])
    rw [if_pos ⟨c, hc, htarget⟩, hrest, ← List.singleton_append,
      eraseDups_append_of_subset hcopies]
    rfl
  · have hnil : fileCallers f u = [] := by
      rw [List.eq_nil_iff_forall_not_mem]
      intro r hr
      obtain ⟨c, hc, -, htarget, -⟩ := mem_fileCallers_iff.1 hr
      exact hcalled ⟨c, hc, htarget⟩
    rw [if_neg hcalled, hnil]
    rfl

/-- The file of the new unit is no caller of anything before. -/
theorem ofFile_not_mem_callers (h : OwnFiles (units ++ [u])) (f : FunctionRecord) {r : CallerRef}
    (hr : r ∈ units.flatMap (unitCallers f) ++ units.flatMap (fileCallers f)) :
    r ≠ CallerRef.ofFile u.path := by
  rcases List.mem_append.1 hr with hr | hr
  · obtain ⟨v, -, hr⟩ := List.mem_flatMap.1 hr
    obtain ⟨-, g, -, -, -, rfl⟩ := mem_unitCallers_iff.1 hr
    simp [CallerKey.ref, CallerRef.ofFile]
  · obtain ⟨v, hv, hr⟩ := List.mem_flatMap.1 hr
    obtain ⟨c, hc, -, -, rfl⟩ := mem_fileCallers_iff.1 hr
    have hfile : c.file = v.path := h.of_append.calls v hv c hc
    simp [CallerKey.ref, CallerRef.ofFile, hfile, h.path_ne hv]

/-- A function of an earlier unit keeps its callers, and gains the file of the new unit if there is
a call of it. -/
theorem callersOf_append (h : OwnFiles (units ++ [u])) {v : SourceUnit} (hv : v ∈ units)
    {f : FunctionRecord} (hf : f ∈ v.functions) :
    callersOf (units ++ [u]) f = callersOf units f ++
      if ∃ c ∈ u.calls, c.target = f.name then [CallerRef.ofFile u.path] else [] := by
  have hu : u ∈ units ++ [u] := by simp
  have hfile : f.file ≠ u.path := by
    rw [h.of_append.functions v hv f hf]
    exact h.path_ne hv
  have hholds : ∀ g ∈ u.functions, g.key ≠ f.key := by
    intro g hg hkey
    refine hfile ?_
    calc f.file = g.file := (congrArg FunctionKey.file hkey).symm
      _ = u.path := h.functions u hu g hg
  have hnew := eraseDups_fileCallers (h.calls u hu) hfile
  have hapart : (fileCallers f u).removeAll
      (units.flatMap (unitCallers f) ++ units.flatMap (fileCallers f)) = fileCallers f u := by
    rw [List.removeAll, List.filter_eq_self]
    intro r hr
    have hmem : r ∈ (fileCallers f u).eraseDups := List.mem_eraseDups.2 hr
    rw [hnew] at hmem
    have hr' : r = CallerRef.ofFile u.path := by
      split at hmem
      · exact List.mem_singleton.1 hmem
      · exact absurd hmem List.not_mem_nil
    rw [Bool.not_eq_true', List.elem_eq_contains, ← Bool.not_eq_true, List.contains_iff_mem]
    exact fun hold => ofFile_not_mem_callers h f hold hr'
  rw [callersOf, List.flatMap_append, List.flatMap_append, List.flatMap_singleton,
    List.flatMap_singleton, unitCallers_eq_nil hholds, List.append_nil, ← List.append_assoc,
    List.eraseDups_append, hapart, hnew]
  rfl

/-! ## Mentions -/

theorem incomingMentions_append {v : SourceUnit} (h : u.path ≠ v.path) :
    incomingMentions (units ++ [u]) v = incomingMentions units v +
      (u.calls ×ˢ v.functions).countP fun p => p.2.name.toList <:+: p.1.target.toList := by
  have hu : [u].filter (·.path != v.path) = [u] := by
    simp [h]
  rw [incomingMentions, List.filter_append, hu, List.map_append, total_eq_sum, List.sum_append,
    List.map_singleton, List.sum_singleton, total_mentionCount, ← total_eq_sum]
  rfl

theorem ModuleFlow.of_append {v : SourceUnit} (h : u.path ≠ v.path) :
    ModuleFlow.of (units ++ [u]) v =
      { ModuleFlow.of units v with
        fanIn := (ModuleFlow.of units v).fanIn +
          (u.calls ×ˢ v.functions).countP fun p => p.2.name.toList <:+: p.1.target.toList } := by
  unfold ModuleFlow.of
  rw [incomingMentions_append h]
  simp only [ModuleFlow.mk.injEq, true_and, and_true]
  omega

/-! ## The graph -/

theorem mem_of_mem_distinctFunctions {f : FunctionRecord} (hf : f ∈ distinctFunctions units) :
    ∃ v ∈ units, f ∈ v.functions := by
  rw [distinctFunctions_eq_firstOfEach] at hf
  exact List.mem_flatMap.1 ((firstOfEach_sublist FunctionRecord.key _).subset hf)

/-- The functions of the new unit come after the others. -/
theorem distinctFunctions_append (h : SeparateFiles (units ++ [u])) (h' : SeparateFiles units) :
    distinctFunctions (units ++ [u]) =
      distinctFunctions units ++ firstOfEach FunctionRecord.key u.functions := by
  rw [h.distinctFunctions_eq, h'.distinctFunctions_eq, List.flatMap_append, List.flatMap_singleton]

theorem CallGraph.function?_of {f : FunctionRecord} (hf : f ∈ distinctFunctions units) :
    (CallGraph.of units).function? f.key = some (FunctionFlow.of units f) :=
  (find?_key_eq_some_iff FunctionFlow.key (CallGraph.functions_pairwise units)).2
    ⟨List.mem_map_of_mem hf, rfl⟩

theorem CallGraph.module?_of (h : SeparateFiles units) {v : SourceUnit} (hv : v ∈ units) :
    (CallGraph.of units).module? v.path = some (ModuleFlow.of units v) :=
  (find?_key_eq_some_iff ModuleFlow.path (List.pairwise_map.2 h.paths)).2
    ⟨List.mem_map_of_mem hv, rfl⟩

/-- **The effect of one more file.** When a unit is added to separate files, each earlier function
gains one caller, the new file, if the new unit records a call of its name, and no caller otherwise;
each earlier module gains as much fan-in as there are pairs of a call of the new unit and a function
of the module whose name occurs in the call's target; all else that is known of an earlier function
or module stays as it is, and so does the cohesion of every earlier module. -/
theorem graph_one_more_file (c : AnalysisConfig) (h : OwnFiles (units ++ [u])) :
    ∃ g g', GraphBuilder.fromUnits units = .ok g ∧
      GraphBuilder.fromUnits (units ++ [u]) = .ok g' ∧
      (∀ f ∈ g.functions, g'.function? f.key =
        if ∃ call ∈ u.calls, call.target = f.name then
          some { f with
            fanIn := f.fanIn + 1
            callers := f.callers ++ [CallerRef.ofFile u.path] }
        else some f) ∧
      (∀ v ∈ units, ∃ m, g.module? v.path = some m ∧
        g'.module? v.path = some { m with
          fanIn := m.fanIn +
            (u.calls ×ˢ v.functions).countP fun p => p.2.name.toList <:+: p.1.target.toList }) ∧
      (MetricsReport.of c g').cohesion =
        (MetricsReport.of c g).cohesion ++ [CohesionScore.of c u] := by
  have hbefore := h.of_append
  refine ⟨_, _, hbefore.fromUnits_eq_of, h.fromUnits_eq_of, ?functions, ?modules, ?cohesion⟩
  case functions =>
    intro flow hflow
    obtain ⟨f, hf, rfl⟩ := List.mem_map.1 hflow
    obtain ⟨v, hv, hfv⟩ := mem_of_mem_distinctFunctions hf
    have hf' : f ∈ distinctFunctions (units ++ [u]) := by
      rw [distinctFunctions_append h.toSeparateFiles hbefore.toSeparateFiles]
      exact List.mem_append_left _ hf
    have hlookup := CallGraph.function?_of hf'
    rw [FunctionFlow.of, callersOf_append h hv hfv] at hlookup
    refine hlookup.trans ?_
    by_cases hcalled : ∃ call ∈ u.calls, call.target = f.name
    · rw [if_pos hcalled, if_pos (by exact hcalled)]
      simp [FunctionFlow.of, FunctionFlow.ofCallers]
    · rw [if_neg hcalled, if_neg (by exact hcalled), List.append_nil]
      rfl
  case modules =>
    intro v hv
    refine ⟨_, CallGraph.module?_of hbefore.toSeparateFiles hv, ?_⟩
    rw [CallGraph.module?_of h.toSeparateFiles (List.mem_append_left _ hv),
      ModuleFlow.of_append (h.path_ne hv).symm]
  case cohesion =>
    simp only [MetricsReport.of, CallGraph.of, List.map_append, List.map_singleton]

/-! ### The same name in several files -/

namespace OneMore

def function (file name : String) : FunctionRecord :=
  { name := name, file := file, moduleName := file, line := 1, endLine := 1, kind := .declaration }

def call (file target : String) : CallRecord :=
  { file := file, target := target, line := 1, kind := .direct }

/-- Two files define `f`; the second one calls `g` of the first. -/
def before : List SourceUnit :=
  [{ path := "a.js", moduleName := "a", functions := [function "a.js" "f", function "a.js" "g"] },
    { path := "b.js", moduleName := "b", functions := [function "b.js" "f"]
      calls := [call "b.js" "g"] }]

/-- A third file calls `f` twice, and something whose name contains both `f` and `g`. -/
def added : SourceUnit :=
  { path := "c.js", moduleName := "c", functions := [function "c.js" "f"]
    calls := [call "c.js" "f", call "c.js" "f", call "c.js" "gadget.off"] }

end OneMore

theorem graph_one_more_file_collision :
    OwnFiles (OneMore.before ++ [OneMore.added]) ∧
      ∃ g g', GraphBuilder.fromUnits OneMore.before = .ok g ∧
        GraphBuilder.fromUnits (OneMore.before ++ [OneMore.added]) = .ok g' ∧
        (∃ f ∈ g.functions, f.key = ⟨"a.js", "f", 1⟩ ∧ f.fanIn = 0 ∧
          g'.function? f.key =
            some { f with fanIn := 1, callers := [CallerRef.ofFile "c.js"] }) ∧
        (∃ f ∈ g.functions, f.key = ⟨"a.js", "g", 1⟩ ∧ f.fanIn = 1 ∧
          g'.function? f.key = some f) ∧
        ∃ m, g.module? "a.js" = some m ∧ m.fanIn = 1 ∧
          g'.module? "a.js" = some { m with fanIn := 5 } := by
  have hown : OwnFiles (OneMore.before ++ [OneMore.added]) := ⟨⟨by decide, by decide⟩, by decide⟩
  obtain ⟨g, g', hg, hg', hfunctions, hmodules, -⟩ := graph_one_more_file {} hown
  refine ⟨hown, g, g', hg, hg', ?_⟩
  rw [hown.of_append.fromUnits_eq_of, Except.ok.injEq] at hg
  subst hg
  have hf : FunctionFlow.of OneMore.before (OneMore.function "a.js" "f") ∈
      (CallGraph.of OneMore.before).functions := by decide +kernel
  have hg : FunctionFlow.of OneMore.before (OneMore.function "a.js" "g") ∈
      (CallGraph.of OneMore.before).functions := by decide +kernel
  obtain ⟨m, hm, hm'⟩ := hmodules _ (List.mem_cons_self ..)
  have hfanIn : m.fanIn = 1 := by
    have hmodule : ((CallGraph.of OneMore.before).module? "a.js").map (·.fanIn) = some 1 := by
      decide +kernel
    rw [show (CallGraph.of OneMore.before).module? "a.js" = some m from hm] at hmodule
    simpa using hmodule
  refine ⟨⟨_, hf, rfl, by decide +kernel, ?_⟩, ⟨_, hg, rfl, by decide +kernel, ?_⟩, m, hm, hfanIn,
    ?_⟩
  · rw [hfunctions _ hf, if_pos (by decide +kernel)]
    decide +kernel
  · rw [hfunctions _ hg, if_neg (by decide +kernel)]
  · rw [hfanIn] at hm'
    exact hm'.trans (by congr 2)

end CallFlow
