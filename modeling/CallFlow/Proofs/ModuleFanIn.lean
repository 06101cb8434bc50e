import CallFlow.Proofs.OneMoreFile

/-!
# The fan-in of a module bounds that of its functions

A function counts its callers, each once: the functions of its unit that call its very name, and the
other files that do. Its module counts mentions: pairs of names within the unit, and calls of other
files, each of them once for every function whose name the target contains. Still the module counts
no less than all its functions together, as every caller leaves a mention of its own:

* a function that calls another one makes a pair of names, and no two callers and callees make the
  same pair if names are distinct (`sum_unitCallers_le`);
* a file that calls a function holds a call with the function's name for its target
  (`sum_fileCallers_le`).
-/

namespace CallFlow

variable {units : List SourceUnit} {u : SourceUnit} {f : FunctionRecord}

/-! ## Callers of one function -/

/-- What is collected from separate files is collected from one unit if no other adds to it. -/
theorem SeparateFiles.flatMap_eq {α : Type} (h : SeparateFiles units) (hu : u ∈ units)
    {collect : SourceUnit → List α} (hother : ∀ v ∈ units, v.path ≠ u.path → collect v = []) :
    units.flatMap collect = collect u := by
  obtain ⟨before, after, rfl⟩ := List.append_of_mem hu
  obtain ⟨-, hafter, hbefore⟩ := List.pairwise_append.1 h.paths
  have hleft : before.flatMap collect = [] := List.flatMap_eq_nil_iff.2 fun v hv =>
    hother v (by simp [hv]) (hbefore v hv u List.mem_cons_self)
  have hright : after.flatMap collect = [] := List.flatMap_eq_nil_iff.2 fun v hv =>
    hother v (by simp [hv]) ((List.pairwise_cons.1 hafter).1 v hv).symm
  rw [List.flatMap_append, List.flatMap_cons, hleft, hright, List.nil_append, List.append_nil]

/-- Does the function `g` call the other function `f` of its unit? -/
def FunctionRecord.callsOther (g f : FunctionRecord) : Bool :=
  g.key != f.key && g.calls.contains f.name

theorem length_unitCallers (hf : f ∈ u.functions) :
    (unitCallers f u).length = u.functions.countP (·.callsOther f) := by
  have hholds : u.functions.any (·.key == f.key) = true :=
    List.any_eq_true.2 ⟨f, hf, beq_self_eq_true _⟩
  rw [unitCallers, if_pos hholds, List.length_map, List.countP_eq_length_filter]
  rfl

theorem length_fileCallers_le (f : FunctionRecord) (u : SourceUnit) :
    (fileCallers f u).length ≤ u.calls.countP (·.target == f.name) := by
  rw [fileCallers, List.length_map, ← List.countP_eq_length_filter]
  refine List.countP_mono_left fun c _ hc => ?_
  exact (Bool.and_eq_true_iff.1 hc).1

theorem fileCallers_eq_nil (h : ∀ c ∈ u.calls, c.file = f.file) : fileCallers f u = [] := by
  rw [List.eq_nil_iff_forall_not_mem]
  intro r hr
  obtain ⟨c, hc, hfile, -, -⟩ := mem_fileCallers_iff.1 hr
  exact hfile (h c hc)

/-- Number of calls of a name in the files other than that of the unit. -/
def callsElsewhere (units : List SourceUnit) (u : SourceUnit) (name : String) : Nat :=
  ((units.filter (·.path != u.path)).map fun v => v.calls.countP (·.target == name)).sum

theorem length_fileCallers_le_callsElsewhere (h : OwnFiles units) (hfile : f.file = u.path) :
    (units.flatMap (fileCallers f)).length ≤ callsElsewhere units u f.name := by
  rw [List.length_flatMap, callsElsewhere, sum_map_filter]
  refine List.sum_le_sum fun v hv => ?_
  by_cases hpath : v.path = u.path
  · have hnone : fileCallers f v = [] := by
      refine fileCallers_eq_nil fun c hc => ?_
      rw [h.calls v hv c hc, hpath, hfile]
    simp [hnone]
  · simpa [hpath] using length_fileCallers_le f v

/-- A function has no more callers than there are functions of its unit that call it and calls of
it in other files. -/
theorem length_callersOf_le (h : OwnFiles units) (hu : u ∈ units) (hf : f ∈ u.functions) :
    (callersOf units f).length ≤
      u.functions.countP (·.callsOther f) + callsElsewhere units u f.name := by
  have hfile : f.file = u.path := h.functions u hu f hf
  have hunit : units.flatMap (unitCallers f) = unitCallers f u := by
    refine h.flatMap_eq hu fun v hv hpath => unitCallers_eq_nil fun g hg hkey => hpath ?_
    calc v.path = g.file := (h.functions v hv g hg).symm
      _ = f.file := congrArg FunctionKey.file hkey
      _ = u.path := hfile
  calc (callersOf units f).length
      ≤ (units.flatMap (unitCallers f) ++ units.flatMap (fileCallers f)).length :=
        (firstOfEach_sublist (fun r => r) _).length_le
    _ = u.functions.countP (·.callsOther f) + (units.flatMap (fileCallers f)).length := by
        rw [List.length_append, hunit, length_unitCallers hf]
    _ ≤ u.functions.countP (·.callsOther f) + callsElsewhere units u f.name :=
        Nat.add_le_add_left (length_fileCallers_le_callsElsewhere h hfile) _

/-! ## Mentions of all functions -/

/-- Does the function `g` mention the other function `f` of its unit? -/
def FunctionRecord.mentionsOther (g f : FunctionRecord) : Bool :=
  g.key != f.key && g.calls.any (Target.mentions · f.name)

theorem Target.mentions_self (name : String) : mentions name name = true :=
  mentions_iff.2 List.infix_rfl

theorem mentionsOther_of_callsOther {g : FunctionRecord} (h : g.callsOther f = true) :
    g.mentionsOther f = true := by
  obtain ⟨hkey, hcalls⟩ := Bool.and_eq_true_iff.1 h
  refine Bool.and_eq_true_iff.2 ⟨hkey, List.any_eq_true.2 ⟨f.name, ?_, Target.mentions_self _⟩⟩
  exact List.contains_iff_mem.1 hcalls

theorem internalPairs_eq (u : SourceUnit) :
    u.internalPairs = (((u.functions ×ˢ u.functions).filter fun p => p.1.mentionsOther p.2).map
      fun p => (p.1.name, p.2.name)).eraseDups := by
  rw [map_filter_product]
  rfl

/-- If names are distinct, then so are the pairs of names. -/
theorem length_internalPairs (hnames : (u.functions.map (·.name)).Nodup) :
    u.internalPairs.length =
      (u.functions ×ˢ u.functions).countP fun p => p.1.mentionsOther p.2 := by
  have hfunctions : u.functions.Nodup := List.Nodup.of_map _ hnames
  have hname {g g' : FunctionRecord} (hg : g ∈ u.functions) (hg' : g' ∈ u.functions)
      (h : g.name = g'.name) : g = g' :=
    List.inj_on_of_nodup_map hnames hg hg' h
  have hpairs : (((u.functions ×ˢ u.functions).filter fun p => p.1.mentionsOther p.2).map
      fun p => (p.1.name, p.2.name)).Nodup := by
    refine List.Nodup.map_on ?_ ((hfunctions.product hfunctions).filter _)
    rintro ⟨g, f⟩ hp ⟨g', f'⟩ hp' hsame
    obtain ⟨hg, hf⟩ := List.mem_product.1 (List.mem_filter.1 hp).1
    obtain ⟨hg', hf'⟩ := List.mem_product.1 (List.mem_filter.1 hp').1
    obtain ⟨hcaller, hcallee⟩ := Prod.mk.inj hsame
    rw [hname hg hg' hcaller, hname hf hf' hcallee]
  rw [internalPairs_eq, (length_eraseDups_eq_iff _).2 hpairs, List.length_map,
    List.countP_eq_length_filter]

/-- Callers within a unit leave a pair of names each. -/
theorem sum_unitCallers_le (hnames : (u.functions.map (·.name)).Nodup) :
    (u.functions.map fun f => u.functions.countP (·.callsOther f)).sum ≤
      u.internalPairs.length := by
  rw [length_internalPairs hnames, countP_product,
    sum_countP_comm fun f g : FunctionRecord => g.callsOther f]
  refine List.sum_le_sum fun g _ => ?_
  exact List.countP_mono_left fun f _ hcalls => mentionsOther_of_callsOther hcalls

/-- Callers in other files leave a call each that mentions the function. -/
theorem sum_fileCallers_le (units : List SourceUnit) (u : SourceUnit) :
    (u.functions.map fun f => callsElsewhere units u f.name).sum ≤ incomingMentions units u := by
  unfold callsElsewhere incomingMentions
  rw [sum_map_sum_comm fun (f : FunctionRecord) (v : SourceUnit) =>
    v.calls.countP (·.target == f.name), total_eq_sum]
  refine List.sum_le_sum fun v _ => ?_
  rw [sum_countP_comm fun (f : FunctionRecord) (c : CallRecord) => c.target == f.name, total_eq_sum]
  -- a target that is the very name mentions it, and may mention others
  refine List.sum_le_sum fun c _ => List.countP_mono_left fun f _ htarget => ?_
  rw [eq_of_beq htarget]
  exact Target.mentions_self f.name

theorem sum_fanIn_le (h : OwnFiles units) (hu : u ∈ units)
    (hnames : (u.functions.map (·.name)).Nodup) :
    (u.functions.map fun f => (FunctionFlow.of units f).fanIn).sum ≤
      (ModuleFlow.of units u).fanIn := by
  calc (u.functions.map fun f => (FunctionFlow.of units f).fanIn).sum
      ≤ (u.functions.map fun f =>
          u.functions.countP (·.callsOther f) + callsElsewhere units u f.name).sum :=
        List.sum_le_sum fun f hf => length_callersOf_le h hu hf
    _ ≤ u.internalPairs.length + incomingMentions units u := by
        rw [List.sum_map_add]
        exact Nat.add_le_add (sum_unitCallers_le hnames) (sum_fileCallers_le units u)
    _ = (ModuleFlow.of units u).fanIn := Nat.add_comm ..

/-! ## The graph -/

/-- The functions of a graph that belong to a file are those of the file's unit. -/
theorem CallGraph.filter_file_functions (h : SeparateFiles units) (hu : u ∈ units) :
    (CallGraph.of units).functions.filter (·.file == u.path) =
      (firstOfEach FunctionRecord.key u.functions).map (FunctionFlow.of units) := by
  have hfile {v : SourceUnit} (hv : v ∈ units) {f : FunctionRecord}
      (hf : f ∈ firstOfEach FunctionRecord.key v.functions) : f.file = v.path :=
    h.functions v hv f ((firstOfEach_sublist FunctionRecord.key _).subset hf)
  have hunit : (distinctFunctions units).filter (·.file == u.path) =
      firstOfEach FunctionRecord.key u.functions := by
    rw [h.distinctFunctions_eq, List.filter_flatMap, h.flatMap_eq hu]
    · exact List.filter_eq_self.2 fun f hf => beq_iff_eq.2 (hfile hu hf)
    · intro v hv hpath
      refine List.filter_eq_nil_iff.2 fun f hf hbeq => hpath ?_
      rw [← hfile hv hf, eq_of_beq hbeq]
  rw [CallGraph.of, List.filter_map, ← hunit]
  rfl

/-- **The fan-in of a module is no less than that of its functions together.** For units of separate
files, in which functions and calls name the path of their unit, the graph is built. A unit whose
functions have distinct names has all of them in the graph, and a module with at least the fan-in
that they have together. -/
theorem module_fanIn_dominates (h : OwnFiles units) (hu : u ∈ units)
    (hnames : (u.functions.map (·.name)).Nodup) :
    ∃ g m, GraphBuilder.fromUnits units = .ok g ∧ g.module? u.path = some m ∧
      (g.functions.filter (·.file == u.path)).map (·.key) = u.functions.map (·.key) ∧
      ((g.functions.filter (·.file == u.path)).map (·.fanIn)).sum ≤ m.fanIn := by
  have hkeys : u.functions.Pairwise fun f g => f.key ≠ g.key :=
    (List.pairwise_map.1 hnames).imp fun hname hkey => hname (congrArg FunctionKey.name hkey)
  have hfunctions : (CallGraph.of units).functions.filter (·.file == u.path) =
      u.functions.map (FunctionFlow.of units) := by
    rw [CallGraph.filter_file_functions h.toSeparateFiles hu,
      firstOfEach_eq_self FunctionRecord.key hkeys]
  refine ⟨_, _, h.fromUnits_eq_of, CallGraph.module?_of h.toSeparateFiles hu, ?_, ?_⟩
  · rw [hfunctions, List.map_map]
    rfl
  · rw [hfunctions, List.map_map]
    exact sum_fanIn_le h hu hnames

/-! ### A name within a name -/

namespace Loader

def function (name : String) (line : Nat) (calls : List String) : FunctionRecord :=
  { name := name, file := "a.js", moduleName := "a", calls := calls, line := line, endLine := line
    kind := .declaration }

def unit (functions : List FunctionRecord) : SourceUnit :=
  { path := "a.js", moduleName := "a", functions := functions }

def callers : SourceUnit :=
  { path := "b.js", moduleName := "b"
    calls := ["load", "load", "loadAll"].map fun target =>
      { file := "b.js", target := target, line := 1, kind := .direct } }

def functions : List FunctionRecord := [function "load" 1 [], function "loadAll" 2 ["load"]]

end Loader

/-- The function `load` has two callers, and `loadAll` has one. The module counts both calls of
`load` in the other file, that of `loadAll` for both functions, and the call within. -/
theorem module_fanIn_dominates_loader :
    let units := [Loader.unit Loader.functions, Loader.callers]
    OwnFiles units ∧ (Loader.functions.map (·.name)).Nodup ∧
      ∃ g m, GraphBuilder.fromUnits units = .ok g ∧ g.module? "a.js" = some m ∧
        ((g.functions.filter (·.file == "a.js")).map (·.fanIn)).sum = 3 ∧ m.fanIn = 5 ∧
        ((g.functions.filter (·.file == "a.js")).map (·.fanIn)).sum ≤ m.fanIn := by
  intro units
  have hown : OwnFiles units := by
    refine { paths := by decide, functions := ?_, calls := ?_ } <;> decide
  have hnames : (Loader.functions.map (·.name)).Nodup := by decide
  obtain ⟨g, m, hg, hm, -, hle⟩ :=
    module_fanIn_dominates hown (u := Loader.unit Loader.functions) (by simp [units]) hnames
  have hgraph : g = CallGraph.of units := by
    rw [hown.fromUnits_eq_of] at hg
    exact (Except.ok.inj hg).symm
  have hmodule : m = ModuleFlow.of units (Loader.unit Loader.functions) := by
    rw [hgraph, CallGraph.module?_of hown.toSeparateFiles (by simp [units])] at hm
    exact (Option.some.inj hm).symm
  refine ⟨hown, hnames, g, m, hg, hm, ?_, ?_, hle⟩
  · rw [hgraph]
    decide +kernel
  · rw [hmodule]
    decide +kernel

/-- Two functions of one name share the pair of names that their caller leaves. -/
example :
    let functions :=
      [Loader.function "f" 1 [], Loader.function "f" 2 [], Loader.function "g" 3 ["f"]]
    let g := CallGraph.of [Loader.unit functions]
    (g.functions.map (·.fanIn)).sum = 2 ∧ g.modules.map (·.fanIn) = [1] := by
  decide +kernel

end CallFlow
