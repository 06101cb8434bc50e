import CallFlow.Proofs.Definitions
import CallFlow.Proofs.Enclosing

/-!
# The caller in the record of a call

The record of a call names the function around the call. During the walk that name is looked up in a
table, by the index of the innermost function among the ancestors, and a miss would be taken for a
call at top level. There is no miss: a function is visited before everything in it and its name is
noted at once, also when its record is not kept (`lookup_names_of_mem`). Nor is the name ever one
that no recorded function has: what is not kept shares its name with something that is
(`exists_function_of_named`).
-/

namespace CallFlow

open CallFlow.Tree (Node Source Visit places IsInnermostFunction)

/-! ## Visited earlier -/

namespace Tree

theorem pairwise_index_walk (root : Node) : (walk root).Pairwise fun v w => v.index < w.index := by
  rw [← List.pairwise_map (R := fun i j : Nat => i < j), walk_eq_preorder, index_preorder.1]
  exact List.pairwise_lt_range' _

theorem nodup_walk (root : Node) : (walk root).Nodup :=
  (pairwise_index_walk root).imp fun h heq => absurd h (by simp [heq])

/-- What has a lower index has been visited before. -/
theorem mem_before_of_index_lt {root : Node} {before after : List Visit} {v w : Visit}
    (hwalk : walk root = before ++ v :: after) (hw : w ∈ walk root) (h : w.index < v.index) :
    w ∈ before := by
  have hpairs := pairwise_index_walk root
  rw [hwalk] at hw hpairs
  refine (List.mem_append.1 hw).resolve_right fun hlate => ?_
  rcases List.mem_cons.1 hlate with rfl | hlate
  · exact Nat.lt_irrefl _ h
  · have := List.rel_of_pairwise_cons (List.pairwise_append.1 hpairs).2.1 hlate
    omega

end Tree

/-! ## Named functions -/

theorem mem_of_mem_nameFunctions {src : Source} {counter : Nat} {vs : List Visit} {F : Visit}
    {name : String} (h : (F, name) ∈ nameFunctions src counter vs) :
    F ∈ vs ∧ F.node.isFunction = true := by
  have hF : F ∈ (nameFunctions src counter vs).map (·.1) := List.mem_map_of_mem h
  rw [map_fst_nameFunctions] at hF
  exact List.mem_filter.1 hF

theorem exists_name (src : Source) (counter : Nat) {vs : List Visit} {F : Visit} (hF : F ∈ vs)
    (hfun : F.node.isFunction = true) : ∃ name, (F, name) ∈ nameFunctions src counter vs := by
  have hmem : F ∈ (nameFunctions src counter vs).map (·.1) := by
    rw [map_fst_nameFunctions]
    exact List.mem_filter.2 ⟨hF, hfun⟩
  simpa using hmem

theorem nodup_index_nameFunctions (src : Source) (counter : Nat) {vs : List Visit}
    (h : (vs.map (·.index)).Nodup) :
    (((nameFunctions src counter vs).map fun d => (d.1.index, d.2)).map (·.1)).Nodup := by
  have hmap : ((nameFunctions src counter vs).map fun d => (d.1.index, d.2)).map (·.1) =
      ((nameFunctions src counter vs).map (·.1)).map (·.index) := by
    rw [List.map_map, List.map_map]
    rfl
  rw [hmap, map_fst_nameFunctions]
  exact h.sublist (List.filter_sublist.map _)

/-- A function of a tree has one name only. -/
theorem name_unique {src : Source} {root : Node} {F : Visit} {name name' : String}
    (h : (F, name) ∈ nameFunctions src 0 (Tree.walk root))
    (h' : (F, name') ∈ nameFunctions src 0 (Tree.walk root)) : name = name' := by
  have hnodup : ((nameFunctions src 0 (Tree.walk root)).map (·.1)).Nodup := by
    rw [map_fst_nameFunctions]
    exact (Tree.nodup_walk root).filter _
  exact congrArg Prod.snd (List.inj_on_of_nodup_map hnodup h h' rfl)

/-- The name of a function is that of a recorded one, if not always of its own record. -/
theorem exists_function_of_named {src : Source} (denied : List String) (file : String) {root : Node}
    {F : Visit} {name : String} (h : (F, name) ∈ nameFunctions src 0 (Tree.walk root)) :
    ∃ f ∈ (SourceUnit.ofTree src denied file root).functions, f.name = name := by
  rw [functions_eq_firstOfEach]
  obtain ⟨f, hf, hkey⟩ := exists_mem_firstOfEach FunctionRecord.key (List.mem_map_of_mem h)
  exact ⟨f, hf, congrArg FunctionKey.name hkey⟩

/-! ## The table of names -/

namespace Scan

/-- The table holds the names of all functions visited so far. -/
theorem lookup_names_of_mem (t : ScanTarget) {root : Node} {before after : List Visit}
    (hwalk : Tree.walk root = before ++ after) {F : Visit} (hF : F ∈ before)
    (hfun : F.node.isFunction = true) :
    ∃ name, (before.foldl (add t) {}).names.lookup F.index = some name ∧
      (F, name) ∈ nameFunctions t.source 0 (Tree.walk root) := by
  obtain ⟨name, hname⟩ := exists_name t.source 0 hF hfun
  refine ⟨name, ?_, ?_⟩
  · have hnodup : (before.map (·.index)).Nodup := by
      have hpairs := Tree.pairwise_index_walk root
      rw [hwalk] at hpairs
      exact List.pairwise_map.2 ((List.pairwise_append.1 hpairs).1.imp Nat.ne_of_lt)
    rw [(foldl_add_named t before {}).1, List.append_nil, lookup_eq_some_iff_mem, List.mem_reverse]
    · exact List.mem_map_of_mem hname
    · rw [List.map_reverse, List.nodup_reverse]
      exact nodup_index_nameFunctions t.source 0 hnodup
  · rw [hwalk]
    exact (nameFunctions_prefix_append t.source before after 0).subset hname

/-- A record of the trace belongs to a call, and names the caller that is found when the call is
visited. -/
theorem of_mem_callTrace {t : ScanTarget} {v : Visit} {r : CallRecord} :
    ∀ {vs : List Visit} {s : Scan}, (v, r) ∈ callTrace t s vs →
      ∃ before after, vs = before ++ v :: after ∧ v.node.kind = "call_expression" ∧
        r.caller = (before.foldl (add t) s).callerName? v := by
  intro vs
  induction vs with
  | nil => exact fun h => absurd h (List.not_mem_nil)
  | cons w vs ih =>
    intro s h
    rw [callTrace, add_calls_eq, List.drop_left] at h
    rcases List.mem_append.1 h with h | h
    · obtain ⟨r', hr', heq⟩ := List.mem_map.1 h
      obtain ⟨rfl, rfl⟩ := Prod.mk.inj heq
      split at hr'
      · refine ⟨[], vs, rfl, ‹_›, ?_⟩
        rw [Option.mem_toList, CallRecord.ofCall_eq_map] at hr'
        obtain ⟨callee, -, rfl⟩ := Option.map_eq_some_iff.1 hr'
        rfl
      · exact absurd hr' (by simp)
    · obtain ⟨before, after, rfl, hk, hcaller⟩ := ih h
      exact ⟨w :: before, after, rfl, hk, hcaller⟩

end Scan

/-! ## The caller -/

/-- Whenever a node is visited, the table has the name of the innermost function around it. -/
theorem lookup_names_of_innermost (t : ScanTarget) {root : Node} {before after : List Visit}
    {v F : Visit} (hwalk : Tree.walk root = before ++ v :: after) (hF : F ∈ Tree.walk root)
    (hinner : IsInnermostFunction root v.toPlace F.toPlace) :
    ∃ name, (before.foldl (Scan.add t) {}).names.lookup F.index = some name ∧
      (F, name) ∈ nameFunctions t.source 0 (Tree.walk root) :=
  Scan.lookup_names_of_mem t hwalk (Tree.mem_before_of_index_lt hwalk hF hinner.encloses.1)
    hinner.isFunction

/-- The caller that is found for a node is the innermost function around it. -/
theorem callerName_eq_some_iff (t : ScanTarget) {root : Node} {before after : List Visit}
    {v : Visit} (hwalk : Tree.walk root = before ++ v :: after) {name : String} :
    (before.foldl (Scan.add t) {}).callerName? v = some name ↔
      ∃ F, IsInnermostFunction root v.toPlace F.toPlace ∧
        (F, name) ∈ nameFunctions t.source 0 (Tree.walk root) := by
  have hv : v ∈ Tree.walk root := by rw [hwalk]; simp
  unfold Scan.callerName?
  rw [Option.bind_eq_bind, Option.bind_eq_some_iff]
  constructor
  · rintro ⟨F, hF, hlookup⟩
    have hinner := (Tree.enclosingFunction_eq_some_iff hv).1 hF
    obtain ⟨W, hW, rfl⟩ := List.mem_map.1 hinner.mem
    obtain ⟨name', hlookup', hname'⟩ := lookup_names_of_innermost t hwalk hW hinner
    obtain rfl := Option.some.inj (hlookup.symm.trans hlookup')
    exact ⟨W, hinner, hname'⟩
  · rintro ⟨F, hinner, hname⟩
    obtain ⟨name', hlookup', hname'⟩ :=
      lookup_names_of_innermost t hwalk (mem_of_mem_nameFunctions hname).1 hinner
    rw [name_unique hname hname']
    exact ⟨F.toPlace, (Tree.enclosingFunction_eq_some_iff hv).2 hinner, hlookup'⟩

theorem callerName_eq_none_iff (t : ScanTarget) {root : Node} {before after : List Visit}
    {v : Visit} (hwalk : Tree.walk root = before ++ v :: after) :
    (before.foldl (Scan.add t) {}).callerName? v = none ↔
      ∀ F ∈ places root, F.node.isFunction = true → ¬F.Encloses v.toPlace := by
  have hv : v ∈ Tree.walk root := by rw [hwalk]; simp
  rw [← Tree.enclosingFunction_eq_none_iff hv]
  constructor
  · intro h
    cases hF : v.enclosingFunction? with
    | none => rfl
    | some F =>
      have hinner := (Tree.enclosingFunction_eq_some_iff hv).1 hF
      obtain ⟨W, hW, rfl⟩ := List.mem_map.1 hinner.mem
      obtain ⟨name, -, hname⟩ := lookup_names_of_innermost t hwalk hW hinner
      have hsome := (callerName_eq_some_iff t hwalk).2 ⟨W, hinner, hname⟩
      exact absurd (h.symm.trans hsome) (by simp)
  · intro h
    unfold Scan.callerName?
    rw [h]
    rfl

/-- **Every call is attributed to the innermost function around it.** Whenever a node is visited, the
table has the name given to the innermost function around it. The caller of a record is that name,
and is missing just if there is no function around the call; and a function that is recorded has
it. -/
theorem caller_is_innermost_function (src : Source) (denied : List String) (file : String)
    (root : Node) :
    let t : ScanTarget := ⟨src, file, moduleNameOf file, denied⟩
    let trace := Scan.callTrace t {} (Tree.walk root)
    let named := nameFunctions src 0 (Tree.walk root)
    let u := SourceUnit.ofTree src denied file root
    trace.map (·.2) = u.calls ∧
    (∀ before v after, Tree.walk root = before ++ v :: after → ∀ F ∈ Tree.walk root,
      IsInnermostFunction root v.toPlace F.toPlace →
        ∃ name, (before.foldl (Scan.add t) {}).names.lookup F.index = some name ∧
          (F, name) ∈ named) ∧
    ∀ v r, (v, r) ∈ trace →
      v ∈ Tree.walk root ∧ v.node.kind = "call_expression" ∧
      (∀ name, r.caller = some name ↔
        ∃ F, IsInnermostFunction root v.toPlace F.toPlace ∧ (F, name) ∈ named) ∧
      (r.caller = none ↔ ∀ F ∈ places root, F.node.isFunction = true → ¬F.Encloses v.toPlace) ∧
      ∀ name, r.caller = some name → ∃ f ∈ u.functions, f.name = name := by
  intro t trace named u
  refine ⟨Scan.append_callTrace t (Tree.walk root) {}, ?_, ?_⟩
  · intro before v after hwalk F hF hinner
    exact lookup_names_of_innermost t hwalk hF hinner
  · intro v r hr
    obtain ⟨before, after, hwalk, hk, hcaller⟩ := Scan.of_mem_callTrace hr
    have hsome (name : String) := hcaller ▸ @callerName_eq_some_iff t root before after v hwalk name
    refine ⟨by rw [hwalk]; simp, hk, hsome, hcaller ▸ callerName_eq_none_iff t hwalk, ?_⟩
    intro name hname
    obtain ⟨F, -, hF⟩ := (hsome name).1 hname
    exact exists_function_of_named denied file hF

/-- The call of `b` is made by the second of two functions that share name and line. No record of
that function is kept, and the call is attributed to it all the same. -/
theorem caller_is_innermost_function_oneBinding :
    let src := OneBinding.source
    let root := OneBinding.root
    let functions := (SourceUnit.ofTree src defaultDenied "a.js" root).functions
    (∀ f ∈ functions, "b" ∉ f.calls) ∧
      ∃ v r, (v, r) ∈ Scan.callTrace ⟨src, "a.js", moduleNameOf "a.js", defaultDenied⟩ {}
          (Tree.walk root) ∧
        r.target = "b" ∧ r.caller = some "f" ∧
        (∃ F, IsInnermostFunction root v.toPlace F.toPlace ∧
          (F, "f") ∈ nameFunctions src 0 (Tree.walk root)) ∧
        ∃ f ∈ functions, f.name = "f" := by
  intro src root functions
  obtain ⟨⟨v, r⟩, hr, htarget, hcaller⟩ :
      ∃ e ∈ Scan.callTrace ⟨src, "a.js", moduleNameOf "a.js", defaultDenied⟩ {} (Tree.walk root),
        e.2.target = "b" ∧ e.2.caller = some "f" := by decide +kernel
  obtain ⟨-, -, hinner, -, hnamed⟩ :=
    (caller_is_innermost_function src defaultDenied "a.js" root).2.2 v r hr
  exact ⟨by decide +kernel, v, r, hr, htarget, hcaller, (hinner "f").1 hcaller, hnamed "f" hcaller⟩

end CallFlow
