import CallFlow.Proofs.CallerTable

/-!
# Units of separate files

Units as a project has them: no two of the same file, and every function placed in the file of its
unit. Then no unit is ignored, functions of different units are never confused, and what is
collected from all units is what is collected from each.
-/

namespace CallFlow

/-- No two units have the same path, and the functions of each name its path as their file. -/
structure SeparateFiles (units : List SourceUnit) : Prop where
  paths : units.Pairwise fun u v => u.path ≠ v.path
  functions : ∀ u ∈ units, ∀ f ∈ u.functions, f.file = u.path

/-- Separate files whose calls, too, name the path of their unit as their file. -/
structure OwnFiles (units : List SourceUnit) : Prop extends SeparateFiles units where
  calls : ∀ u ∈ units, ∀ c ∈ u.calls, c.file = u.path

namespace SeparateFiles

variable {units units' : List SourceUnit}

theorem perm (h : SeparateFiles units) (hperm : units.Perm units') : SeparateFiles units' :=
  ⟨(hperm.pairwise_iff Ne.symm).1 h.paths, fun u hu => h.functions u (hperm.mem_iff.2 hu)⟩

theorem keptUnits_eq (h : SeparateFiles units) : keptUnits units = units := by
  rw [keptUnits_eq_firstOfEach, firstOfEach_eq_self SourceUnit.path h.paths]

/-- The graph of separate files is built from all of them. -/
theorem fromUnits_eq_of (h : SeparateFiles units) :
    GraphBuilder.fromUnits units = .ok (CallGraph.of units) := by
  rw [GraphBuilder.fromUnits_eq, CallGraph.ofUnits, h.keptUnits_eq]

/-- Functions of different units have different keys. -/
theorem pairwise_key_ne (h : SeparateFiles units) :
    units.Pairwise fun u v => ∀ f ∈ u.functions, ∀ g ∈ v.functions, f.key ≠ g.key := by
  refine h.paths.imp_of_mem fun {u v} hu hv hpath f hf g hg hkey => hpath ?_
  calc u.path = f.file := (h.functions u hu f hf).symm
    _ = g.file := congrArg FunctionKey.file hkey
    _ = v.path := h.functions v hv g hg

/-- The functions of a project are those of each unit, the first of each key in it. -/
theorem distinctFunctions_eq (h : SeparateFiles units) :
    distinctFunctions units =
      units.flatMap fun u => firstOfEach FunctionRecord.key u.functions := by
  rw [distinctFunctions_eq_firstOfEach, firstOfEach_flatMap FunctionRecord.key h.pairwise_key_ne]

end SeparateFiles

/-! ## Keys of the graph -/

/-- No two functions of a graph have the same key. -/
theorem CallGraph.functions_pairwise (units : List SourceUnit) :
    (CallGraph.of units).functions.Pairwise fun f g => f.key ≠ g.key :=
  List.pairwise_map.2 (distinctFunctions_pairwise units)

end CallFlow
