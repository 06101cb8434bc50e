import CallFlow.Proofs.Attribution
import CallFlow.Proofs.FewerCalls

/-!
# A larger deny-list

Direct calls of denied names are not recorded. The same name may be called as a member too, and
such calls are never denied. So when more names are denied, a call of a member may become the first
with its name and take the place of a direct call: the function keeps the name among its callees,
possibly later than before, but no longer among its direct callees.

`SourceUnit.Denying` says what becomes of a file's records, and `SourceUnit.ofTree_denying` that
denying more names has this effect and no other. It leaves out calls only, so no figure grows
(`figures_of_denying`).
-/

namespace CallFlow

open CallFlow.Tree (Node Source Visit)

/-! ## The callees of a function -/

namespace CallNames

/-- What is left of the names of a function's callees when direct calls of the given names are
denied. -/
structure Denying (denied : List String) (names' names : CallNames) : Prop where
  directCalls : names'.directCalls = names.directCalls.filter (!denied.contains ·)
  calls : names'.calls ⊆ names.calls
  /-- Only denied names may be missing, or stand elsewhere. -/
  others : names'.calls.filter (!denied.contains ·) = names.calls.filter (!denied.contains ·)
  nodup : names'.calls.Nodup

variable {denied denied' : List String}

theorem not_isDenied_of_subset (h : denied ⊆ denied') {c : Callee}
    (hc : c.isDenied denied' = false) : c.isDenied denied = false := by
  simp only [Callee.isDenied, Bool.and_eq_false_iff, List.contains_eq_mem,
    decide_eq_false_iff_not] at hc ⊢
  exact hc.imp id fun hname hmem => hname (h hmem)

/-- The callees whose names are not denied are the same for all smaller deny-lists. -/
theorem filter_firstOfEach_notDenied (h : denied ⊆ denied') (cs : List Callee) :
    (firstOfEach Callee.name (cs.filter (!·.isDenied denied))).filter
        (!denied'.contains ·.name) =
      firstOfEach Callee.name (cs.filter (!denied'.contains ·.name)) := by
  rw [filter_firstOfEach Callee.name (!denied'.contains ·), List.filter_filter]
  refine congrArg (firstOfEach Callee.name ·) (List.filter_congr fun c _ => ?_)
  by_cases hmem : c.name ∈ denied'
  · simp [hmem]
  · have hnot : c.name ∉ denied := fun hd => hmem (h hd)
    simp [Callee.isDenied, hmem, hnot]

/-- Denying more names, from the same list of callees. -/
theorem ofCallees_denying (h : denied ⊆ denied') (cs : List Callee) :
    Denying denied' (ofCallees (firstOfEach Callee.name (cs.filter (!·.isDenied denied'))))
      (ofCallees (firstOfEach Callee.name (cs.filter (!·.isDenied denied)))) := by
  set kept' := firstOfEach Callee.name (cs.filter (!·.isDenied denied')) with hkept'
  set kept := firstOfEach Callee.name (cs.filter (!·.isDenied denied)) with hkept
  have hothers : ofCallees (kept'.filter (!denied'.contains ·.name)) =
      ofCallees (kept.filter (!denied'.contains ·.name)) := by
    rw [hkept', hkept, filter_firstOfEach_notDenied (List.Subset.refl _),
      filter_firstOfEach_notDenied h]
  rw [filter_ofCallees (!denied'.contains ·), filter_ofCallees (!denied'.contains ·),
    CallNames.mk.injEq] at hothers
  -- no direct call of a denied name is left
  have hdirect : (ofCallees kept').directCalls.filter (!denied'.contains ·) =
      (ofCallees kept').directCalls := by
    rw [List.filter_eq_self]
    intro name hname
    obtain ⟨c, hc, rfl⟩ := List.mem_map.1 hname
    obtain ⟨hmem, hkind⟩ := List.mem_filter.1 hc
    have hallowed := List.of_mem_filter ((firstOfEach_sublist Callee.name _).subset hmem)
    simpa [Callee.isDenied, beq_iff_eq.1 hkind] using hallowed
  refine ⟨?_, ?_, hothers.1, ?_⟩
  · rw [← hdirect, hothers.2]
  · intro name hname
    have hname' : name ∈ kept'.map Callee.name := hname
    rw [hkept', map_key_firstOfEach, List.mem_eraseDups] at hname'
    obtain ⟨c, hc, rfl⟩ := List.mem_map.1 hname'
    obtain ⟨hmem, hallowed⟩ := List.mem_filter.1 hc
    have hallowed' := not_isDenied_of_subset h (by simpa using hallowed)
    have hgoal : c.name ∈ kept.map Callee.name := by
      rw [hkept, map_key_firstOfEach, List.mem_eraseDups]
      exact List.mem_map_of_mem (List.mem_filter.2 ⟨hmem, by simp [hallowed']⟩)
    exact hgoal
  · exact List.pairwise_map.2 (firstOfEach_pairwise Callee.name _)

theorem ofFunction_denying (h : denied ⊆ denied') (src : Source) (n : Node) :
    Denying denied' (ofFunction src denied' n) (ofFunction src denied n) := by
  have heq (denied : List String) := ofFunction_eq src denied ⟨⟨0, n⟩, []⟩
  rw [show ofFunction src denied' n = _ from heq denied',
    show ofFunction src denied n = _ from heq denied]
  exact ofCallees_denying h _

end CallNames

/-! ## The records of a file -/

/-- The function `f` when direct calls of the given names are denied. -/
structure FunctionRecord.Denying (denied : List String) (f' f : FunctionRecord) : Prop where
  same : { f' with calls := f.calls, directCalls := f.directCalls } = f
  names : CallNames.Denying denied ⟨f'.calls, f'.directCalls⟩ ⟨f.calls, f.directCalls⟩

/-- The records `u` of a file when direct calls of the given names are denied. -/
structure SourceUnit.Denying (denied : List String) (u' u : SourceUnit) : Prop where
  path : u'.path = u.path
  moduleName : u'.moduleName = u.moduleName
  functions : List.Forall₂ (FunctionRecord.Denying denied) u'.functions u.functions
  calls : u'.calls = u.calls.filter fun r => !(r.kind == .direct && denied.contains r.target)
  imports : u'.imports = u.imports
  exports : u'.exports = u.exports

section Records

variable {denied denied' : List String}

theorem FunctionRecord.Denying.key {f' f : FunctionRecord} (h : f'.Denying denied f) :
    f'.key = f.key := by
  rw [← h.same]
  rfl

/-- The function at a node, if there is one, is recorded either way. -/
theorem Site.function?_denying (h : denied ⊆ denied') (src : Source) (file moduleName : String)
    (s : Site) :
    Option.Rel (FunctionRecord.Denying denied')
      (s.function? ⟨src, file, moduleName, denied'⟩)
      (s.function? ⟨src, file, moduleName, denied⟩) := by
  unfold Site.function?
  cases s.name with
  | none => exact .none
  | some name => exact .some ⟨rfl, CallNames.ofFunction_denying h src s.node⟩

/-- A call at a node is recorded unless it is denied, and else in the same way. -/
theorem Site.call?_denying (h : denied ⊆ denied') (src : Source) (file moduleName : String)
    (s : Site) :
    s.call? ⟨src, file, moduleName, denied'⟩ =
      (s.call? ⟨src, file, moduleName, denied⟩).filter fun r =>
        !(r.kind == .direct && denied'.contains r.target) := by
  unfold Site.call?
  by_cases hk : s.node.kind = "call_expression"
  · rw [if_pos hk, if_pos hk]
    cases Callee.of? src s.node with
    | none => rfl
    | some callee =>
      dsimp only
      by_cases hrecorded : callee.name ≠ "" ∧ ¬(callee.kind = .direct ∧ callee.name ∈ denied)
      · rw [if_pos hrecorded, Option.filter_some]
        simp [hrecorded.1, imp_iff_not_or]
      · have hrecorded' :
            ¬(callee.name ≠ "" ∧ ¬(callee.kind = .direct ∧ callee.name ∈ denied')) :=
          fun ⟨hname, hnot⟩ => hrecorded ⟨hname, fun ⟨hdirect, hmem⟩ => hnot ⟨hdirect, h hmem⟩⟩
        rw [if_neg hrecorded, if_neg hrecorded', Option.filter_none]
  · rw [if_neg hk, if_neg hk]
    rfl

/-- What a walk over a whole tree collects is read off its nodes. -/
theorem Scan.extends_walk (t : ScanTarget) (root : Node) :
    Scan.Extends t {} ((Tree.walk root).foldl (Scan.add t) {}) (sites t.source [] 0 root).1 := by
  have hstart : Scan.Follows {} [] [] 0 := ⟨.nil, by simp, .nil, by simp⟩
  rw [Tree.walk_eq_preorder]
  exact ((Scan.scan_eq_sites t).1 root {} [] [] 0 hstart).2.1

theorem functions_ofTree (src : Source) (denied : List String) (file : String) (root : Node) :
    (SourceUnit.ofTree src denied file root).functions =
      firstOfEach FunctionRecord.key ((sites src [] 0 root).1.filterMap
        (·.function? ⟨src, file, moduleNameOf file, denied⟩)) := by
  have hfound := Scan.extends_walk ⟨src, file, moduleNameOf file, denied⟩ root
  rw [← foldl_insertNew]
  exact hfound.functions

/-- Denying more names changes the calls of a file and of its functions, and nothing else. -/
theorem SourceUnit.ofTree_denying (h : denied ⊆ denied') (src : Source) (file : String)
    (root : Node) :
    SourceUnit.Denying denied' (SourceUnit.ofTree src denied' file root)
      (SourceUnit.ofTree src denied file root) := by
  have hfound' := Scan.extends_walk ⟨src, file, moduleNameOf file, denied'⟩ root
  have hfound := Scan.extends_walk ⟨src, file, moduleNameOf file, denied⟩ root
  dsimp only [SourceUnit.ofTree]
  refine ⟨rfl, rfl, ?functions, ?calls, ?imports, ?exports⟩
  case functions =>
    rw [hfound'.functions, hfound.functions]
    refine foldl_insertNew_inStep FunctionRecord.key (fun _ _ hf => hf.key) ?_
    refine List.rel_filterMap ?_ (List.forall₂_same.2 fun _ _ => rfl)
    rintro s _ rfl
    exact Site.function?_denying h src file _ s
  case calls =>
    rw [hfound'.calls, hfound.calls, List.nil_append, List.nil_append, List.filter_filterMap]
    exact List.filterMap_congr fun s _ => Site.call?_denying h src file _ s
  case imports =>
    rw [hfound'.imports, hfound.imports]
    rfl
  case exports =>
    rw [hfound'.exports, hfound.exports]
    rfl

theorem FunctionRecord.Denying.fewerCalls {f' f : FunctionRecord} (h : f'.Denying denied f) :
    f'.FewerCalls f where
  same := h.same
  calls := List.subperm_of_subset h.names.nodup h.names.calls
  directCalls := by
    rw [show f'.directCalls = _ from h.names.directCalls]
    exact List.filter_sublist

theorem SourceUnit.Denying.fewerCalls {u' u : SourceUnit} (h : u'.Denying denied u) :
    u'.FewerCalls u where
  path := h.path
  moduleName := h.moduleName
  functions := h.functions.imp fun _ _ hf => hf.fewerCalls
  calls := by
    rw [h.calls]
    exact List.filter_sublist

end Records

/-! ## All files -/

/-- The records of files, each given by its path, its text and its tree. -/
def unitsOf (denied : List String) (files : List (String × Source × Node)) : List SourceUnit :=
  files.map fun (file, src, root) => SourceUnit.ofTree src denied file root

theorem unitsOf_denying {denied denied' : List String} (h : denied ⊆ denied')
    (files : List (String × Source × Node)) :
    List.Forall₂ (SourceUnit.Denying denied') (unitsOf denied' files) (unitsOf denied files) := by
  unfold unitsOf
  rw [List.forall₂_map_left_iff, List.forall₂_map_right_iff, List.forall₂_same]
  exact fun (file, src, root) _ => SourceUnit.ofTree_denying h src file root

/-- **Denying more names never enlarges a figure.** Under a larger deny-list the files have the same
functions, imports and exports, and lose just the direct calls of denied names; both graphs are
built, and no fan-in or fan-out of a function or module, no complexity, no coupling count and no
number of related pairs is larger. -/
theorem figures_of_denying (c : AnalysisConfig) {denied denied' : List String}
    (h : denied ⊆ denied') (files : List (String × Source × Node)) :
    List.Forall₂ (SourceUnit.Denying denied') (unitsOf denied' files) (unitsOf denied files) ∧
    ∃ g' g, GraphBuilder.fromUnits (unitsOf denied' files) = .ok g' ∧
      GraphBuilder.fromUnits (unitsOf denied files) = .ok g ∧
      g'.NoLarger g ∧ (MetricsReport.of c g').NoLarger (MetricsReport.of c g) := by
  have hunits := unitsOf_denying h files
  have hfewer := hunits.imp fun _ _ hu => hu.fewerCalls
  exact ⟨hunits, _, _, GraphBuilder.fromUnits_eq _, GraphBuilder.fromUnits_eq _,
    CallGraph.ofUnits_noLarger hfewer, MetricsReport.of_noLarger c hfewer⟩

/-- The function `f` calls `g` directly and then as a member. Once `g` is denied, it is a callee by
the second call, and no longer a direct one. -/
theorem figures_of_denying_nested :
    let files := [("a.js", Nested.source, Nested.root)]
    let names denied := (unitsOf denied files).flatMap fun u =>
      u.functions.map fun f => (f.name, f.calls, f.directCalls)
    ([] : List String) ⊆ ["g"] ∧
      names [] = [("f", ["g"], ["g"]), ("anonymous_0", ["h"], ["h"])] ∧
      names ["g"] = [("f", ["g"], []), ("anonymous_0", ["h"], ["h"])] ∧
      List.Forall₂ (SourceUnit.Denying ["g"]) (unitsOf ["g"] files) (unitsOf [] files) ∧
      ∃ g' g, GraphBuilder.fromUnits (unitsOf ["g"] files) = .ok g' ∧
        GraphBuilder.fromUnits (unitsOf [] files) = .ok g ∧
        g'.NoLarger g ∧ (MetricsReport.of {} g').NoLarger (MetricsReport.of {} g) := by
  intro files names
  have hsubset : ([] : List String) ⊆ ["g"] := List.nil_subset _
  exact ⟨hsubset, by decide +kernel, by decide +kernel, figures_of_denying {} hsubset files⟩

end CallFlow
