import Mathlib.Tactic.Set
import CallFlow.Graph.Builder
import CallFlow.Proofs.FirstOfEach

/-!
# The table of callers is never asked for a missing row

Collecting the callers of all functions in one table goes well for every list of units, and gives
for each function the callers that `callersOf` names, in the same order.

* `foldlM_record` — any run of additions to rows that are there succeeds and leaves in each row what
  was added to it, each caller once;
* `CallerTable.collect_eq` — the two rounds over all units are such a run;
* `CallGraph.collect_eq`, `GraphBuilder.fromUnits_eq` — so the graph is always built, and is
  `CallGraph.of` of the units kept.
-/

namespace CallFlow

theorem keptUnits_eq_firstOfEach (units : List SourceUnit) :
    keptUnits units = firstOfEach SourceUnit.path units :=
  foldl_insertNew SourceUnit.path units

theorem distinctFunctions_eq_firstOfEach (units : List SourceUnit) :
    distinctFunctions units = firstOfEach FunctionRecord.key (units.flatMap (·.functions)) :=
  foldl_insertNew FunctionRecord.key _

theorem distinctFunctions_pairwise (units : List SourceUnit) :
    (distinctFunctions units).Pairwise fun f g => f.key ≠ g.key := by
  rw [distinctFunctions_eq_firstOfEach]
  exact firstOfEach_pairwise ..

/-! ## Runs of additions -/

/-- A loop over a `flatMap` is a loop of loops. -/
theorem foldlM_flatMap {α β γ ε : Type} (f : α → List β) (g : γ → β → Except ε γ) (xs : List α)
    (start : γ) :
    (xs.flatMap f).foldlM g start = xs.foldlM (fun c x => (f x).foldlM g c) start := by
  induction xs generalizing start with
  | nil => rfl
  | cons x xs ih => simp only [List.flatMap_cons, List.foldlM_append, List.foldlM_cons, ih]

/-- The reference to the caller with the given key. -/
def CallerKey.ref : CallerKey → CallerRef
  | .function k => ⟨k.file, some k.name, some k.line⟩
  | .file p => ⟨p, none, none⟩

theorem CallerKey.ref_injective : Function.Injective CallerKey.ref := by
  rintro (⟨file, name, line⟩ | p) (⟨file', name', line'⟩ | p') h
  · simp only [ref, CallerRef.mk.injEq, Option.some.injEq, Int.ofNat_inj] at h
    obtain ⟨rfl, rfl, rfl⟩ := h
    rfl
  · simp [ref] at h
  · simp [ref] at h
  · simp only [ref, CallerRef.mk.injEq] at h
    rw [h.1]

namespace CallerTable

/-- The table with the given rows. -/
def ofRows (keys : List FunctionKey) (row : FunctionKey → List CallerKey) : CallerTable :=
  ⟨keys.map fun k => (k, (row k).map fun c => (c, c.ref))⟩

theorem empty_eq (functions : List FunctionRecord) :
    empty functions = ofRows (functions.map (·.key)) fun _ => [] := by
  rw [empty, ofRows, List.map_map]
  rfl

theorem callers_ofRows {keys : List FunctionKey} {k : FunctionKey} (hk : k ∈ keys)
    (row : FunctionKey → List CallerKey) :
    (ofRows keys row).callers k = .ok ((row k).map (·.ref)) := by
  have hlookup : (ofRows keys row).rows.lookup k = some ((row k).map fun c => (c, c.ref)) := by
    rw [ofRows]
    induction keys with
    | nil => exact absurd hk (List.not_mem_nil)
    | cons j keys ih =>
      rw [List.map_cons, List.lookup_cons]
      by_cases hj : k = j
      · rw [hj, beq_self_eq_true]
      · rw [beq_false_of_ne hj]
        exact ih (List.mem_of_ne_of_mem hj hk)
  rw [callers, hlookup]
  exact congrArg Except.ok (List.map_map ..)

/-- One addition to a row that is there. -/
theorem record_ofRows {keys : List FunctionKey} {callee : FunctionKey} (h : callee ∈ keys)
    (row : FunctionKey → List CallerKey) (c : CallerKey) :
    (ofRows keys row).record callee c c.ref =
      .ok (ofRows keys fun k =>
        if k == callee then insertNew (fun c => c) (row k) c else row k) := by
  have hany : (ofRows keys row).rows.any (·.1 == callee) = true := by
    rw [ofRows, List.any_map, List.any_eq_true]
    exact ⟨callee, h, by simp⟩
  have hinsert (cs : List CallerKey) : insertNew (·.1) (cs.map fun c => (c, c.ref)) (c, c.ref) =
      (insertNew (fun c => c) cs c).map fun c => (c, c.ref) := by
    rw [insertNew, insertNew, List.any_map]
    cases hc : cs.any (· == c) with
    | true => rw [if_pos (by exact hc), if_pos rfl]
    | false =>
      rw [if_neg (by rw [Function.comp_def, hc]; exact Bool.false_ne_true),
        if_neg Bool.false_ne_true, List.map_append]
      rfl
  rw [record, if_pos hany, ofRows, ofRows, List.map_map]
  refine congrArg (fun rows => Except.ok (CallerTable.mk rows)) (List.map_congr_left fun k _ => ?_)
  rw [Function.comp_apply]
  split
  · rw [hinsert]
  · rfl

/-- Adds a caller to the row of a function. -/
def recordPair (t : CallerTable) (e : FunctionKey × CallerKey) : Except FunctionKey CallerTable :=
  t.record e.1 e.2 e.2.ref

/-- A run of additions to rows that are there leaves in each row what was added to it. -/
theorem foldlM_record {keys : List FunctionKey} (events : List (FunctionKey × CallerKey)) :
    (∀ e ∈ events, e.1 ∈ keys) → ∀ row : FunctionKey → List CallerKey,
      events.foldlM recordPair (ofRows keys row) =
        .ok (ofRows keys fun k =>
          ((events.filter (·.1 == k)).map (·.2)).foldl (insertNew fun c => c) (row k)) := by
  induction events with
  | nil => intro _ row; rfl
  | cons e events ih =>
    intro h row
    have hhere : (ofRows keys row).recordPair e = .ok (ofRows keys fun k =>
        if k == e.1 then insertNew (fun c => c) (row k) e.2 else row k) :=
      record_ofRows (h e (List.mem_cons_self ..)) row e.2
    rw [List.foldlM_cons, hhere]
    refine (ih (fun e' he' => h e' (List.mem_cons_of_mem _ he')) _).trans ?_
    refine congrArg (fun row => Except.ok (ofRows keys row)) (funext fun k => ?_)
    by_cases hk : k = e.1
    · rw [hk, List.filter_cons_of_pos (by simp), List.map_cons, List.foldl_cons]
      simp
    · rw [List.filter_cons_of_neg (by simpa using Ne.symm hk), if_neg (by simpa using hk)]

/-! ## The two rounds -/

/-- The additions that one unit's functions make. -/
def functionEvents (u : SourceUnit) : List (FunctionKey × CallerKey) :=
  u.functions.flatMap fun callee =>
    (u.functions.filter fun caller =>
      caller.key != callee.key && caller.calls.contains callee.name).map
        fun caller => (callee.key, .function caller.key)

/-- The additions that one unit's calls make to the given functions. -/
def fileEvents (functions : List FunctionRecord) (u : SourceUnit) :
    List (FunctionKey × CallerKey) :=
  u.calls.flatMap fun call =>
    (functions.filter fun callee => callee.name == call.target && call.file != callee.file).map
      fun callee => (callee.key, .file call.file)

theorem addFunctions_eq (t : CallerTable) (u : SourceUnit) :
    t.addFunctions u = (functionEvents u).foldlM recordPair t := by
  rw [addFunctions, functionEvents, foldlM_flatMap]
  refine congrArg (fun step => u.functions.foldlM step t) (funext fun t => funext fun callee => ?_)
  rw [List.foldlM_map, List.foldlM_filter]
  refine congrArg (fun step => u.functions.foldlM step t) (funext fun t => funext fun caller => ?_)
  rw [bne]
  generalize (caller.key == callee.key) = same
  generalize caller.calls.contains callee.name = calls
  cases same <;> cases calls <;> rfl

/-- Changing the entry of one name in an index by name. -/
theorem lookup_map_entry {α : Type} (g : α → α) (m n : String) (entries : List (String × α)) :
    (entries.map fun e => if e.1 == m then (e.1, g e.2) else e).lookup n =
      if n == m then (entries.lookup n).map g else entries.lookup n := by
  induction entries with
  | nil => simp
  | cons e entries ih =>
    obtain ⟨k, v⟩ := e
    have hentry : (if k == m then (k, g v) else (k, v)) = (k, if k == m then g v else v) := by
      split <;> rfl
    rw [List.map_cons, hentry, List.lookup_cons, List.lookup_cons, ih]
    by_cases hk : n = k
    · rw [hk, beq_self_eq_true]
      cases k == m <;> rfl
    · rw [beq_false_of_ne hk]

/-- The index by name after one more function. -/
theorem lookup_addByName (byName : List (String × List FunctionRecord)) (f : FunctionRecord)
    (n : String) :
    ((addByName byName f).lookup n).getD [] =
      (byName.lookup n).getD [] ++ if f.name == n then [f] else [] := by
  rw [addByName]
  by_cases hany : byName.any (·.1 == f.name) = true
  · rw [if_pos hany, lookup_map_entry (· ++ [f])]
    by_cases hn : n = f.name
    · obtain ⟨e, he, hname⟩ := List.any_eq_true.1 hany
      obtain ⟨fs, hfs⟩ := Option.isSome_iff_exists.1
        (List.lookup_isSome_iff.2 ⟨e, he, BEq.symm hname⟩)
      simp [hn, hfs]
    · simp [hn, Ne.symm hn]
  · have hnone : byName.lookup f.name = none := by
      rw [List.lookup_eq_none_iff]
      intro e he
      rw [bne_iff_ne]
      exact fun h => hany (List.any_eq_true.2 ⟨e, he, by simp [h]⟩)
    rw [if_neg hany, List.lookup_append, List.lookup_cons]
    by_cases hn : n = f.name
    · simp [hn, hnone]
    · rw [beq_false_of_ne hn, beq_false_of_ne (Ne.symm hn)]
      simp

theorem lookup_byName (functions : List FunctionRecord) (n : String) :
    ∀ byName, ((functions.foldl addByName byName).lookup n).getD [] =
      (byName.lookup n).getD [] ++ functions.filter (·.name == n) := by
  induction functions with
  | nil => intro byName; simp
  | cons f functions ih =>
    intro byName
    rw [List.foldl_cons, ih, lookup_addByName, List.append_assoc]
    by_cases hf : f.name = n
    · simp [hf]
    · simp [hf]

theorem addFiles_eq (functions : List FunctionRecord) (t : CallerTable) (u : SourceUnit) :
    t.addFiles (functions.foldl addByName []) u = (fileEvents functions u).foldlM recordPair t := by
  rw [addFiles, fileEvents, foldlM_flatMap]
  refine congrArg (fun step => u.calls.foldlM step t) (funext fun t => funext fun call => ?_)
  have hindex : ((functions.foldl addByName []).lookup call.target).getD [] =
      functions.filter (·.name == call.target) := lookup_byName functions call.target []
  rw [hindex, List.foldlM_map, List.foldlM_filter, List.foldlM_filter]
  refine congrArg (fun step => functions.foldlM step t) (funext fun t => funext fun callee => ?_)
  rw [bne]
  generalize (callee.name == call.target) = named
  generalize (call.file == callee.file) = own
  cases named <;> cases own <;> rfl

/-- Everything that is added to the table, in order. -/
def events (units : List SourceUnit) (functions : List FunctionRecord) :
    List (FunctionKey × CallerKey) :=
  units.flatMap functionEvents ++ units.flatMap (fileEvents functions)

theorem collect_eq_foldlM (units : List SourceUnit) (functions : List FunctionRecord) :
    collect units functions =
      (events units functions).foldlM recordPair (ofRows (functions.map (·.key)) fun _ => []) := by
  have hfunctions : addFunctions = fun t u => (functionEvents u).foldlM recordPair t :=
    funext fun t => funext fun u => addFunctions_eq t u
  have hfiles : addFiles (functions.foldl addByName []) =
      fun t u => (fileEvents functions u).foldlM recordPair t :=
    funext fun t => funext fun u => addFiles_eq functions t u
  simp only [collect, events, List.foldlM_append, foldlM_flatMap, hfunctions, hfiles, empty_eq]

/-- Every row that is asked for is there. -/
theorem mem_keys_of_mem_events {units : List SourceUnit} {e : FunctionKey × CallerKey}
    (he : e ∈ events units (distinctFunctions units)) :
    e.1 ∈ (distinctFunctions units).map (·.key) := by
  rcases List.mem_append.1 he with he | he
  · obtain ⟨u, hu, he⟩ := List.mem_flatMap.1 he
    obtain ⟨callee, hcallee, he⟩ := List.mem_flatMap.1 he
    obtain ⟨caller, -, rfl⟩ := List.mem_map.1 he
    obtain ⟨f, hf, hkey⟩ := exists_mem_firstOfEach FunctionRecord.key
      (List.mem_flatMap.2 ⟨u, hu, hcallee⟩)
    rw [distinctFunctions_eq_firstOfEach]
    exact List.mem_map.2 ⟨f, hf, hkey⟩
  · obtain ⟨u, -, he⟩ := List.mem_flatMap.1 he
    obtain ⟨call, -, he⟩ := List.mem_flatMap.1 he
    obtain ⟨callee, hcallee, rfl⟩ := List.mem_map.1 he
    exact List.mem_map_of_mem (List.mem_of_mem_filter hcallee)

/-- Collecting the callers goes well, and each row holds what was added to it, each caller once. -/
theorem collect_eq (units : List SourceUnit) :
    collect units (distinctFunctions units) =
      .ok (ofRows ((distinctFunctions units).map (·.key)) fun k =>
        (((events units (distinctFunctions units)).filter (·.1 == k)).map (·.2)).eraseDups) := by
  rw [collect_eq_foldlM, foldlM_record _ (fun _ he => mem_keys_of_mem_events he)]
  simp only [foldl_insertNew]
  rfl

/-! ## The rows -/

/-- The functions of a unit that are added to the row of `f`. -/
theorem map_ref_functionEvents (f : FunctionRecord) (u : SourceUnit) :
    (((functionEvents u).filter (·.1 == f.key)).map (·.2.ref)).eraseDups =
      (unitCallers f u).eraseDups := by
  rw [unitCallers, ← eraseDups_flatMap_const, functionEvents, List.filter_flatMap, List.map_flatMap]
  refine congrArg (fun refs => (u.functions.flatMap refs).eraseDups) (funext fun callee => ?_)
  rw [List.filter_map, List.map_map]
  by_cases hkey : callee.key = f.key
  · have hname : callee.name = f.name := congrArg FunctionKey.name hkey
    rw [hkey, hname, if_pos (by simp), List.filter_eq_self.2 (by simp)]
    rfl
  · rw [if_neg (by simpa using hkey), List.filter_eq_nil_iff.2 (by simp [hkey])]
    rfl

theorem flatMap_ite_singleton {α β : Type} (p : α → Bool) (g : α → β) (xs : List α) :
    (xs.flatMap fun x => if p x then [g x] else []) = (xs.filter p).map g := by
  induction xs with
  | nil => rfl
  | cons x xs ih =>
    rw [List.flatMap_cons, ih, List.filter_cons]
    split <;> rfl

/-- The files that are added to the row of `f` for the calls of a unit. -/
theorem map_ref_fileEvents {functions : List FunctionRecord}
    (hdistinct : functions.Pairwise fun f g => f.key ≠ g.key) {f : FunctionRecord}
    (hf : f ∈ functions) (u : SourceUnit) :
    ((fileEvents functions u).filter (·.1 == f.key)).map (·.2.ref) = fileCallers f u := by
  have hcall (call : CallRecord) :
      ((functions.filter fun callee =>
        callee.name == call.target && call.file != callee.file).filter (·.key == f.key)).map
          (fun _ => CallerRef.ofFile call.file) =
        if call.target == f.name && call.file != f.file then [CallerRef.ofFile call.file]
        else [] := by
    -- of all functions, `f` is the only one with its key
    rw [List.filter_comm, filter_key_eq_singleton FunctionRecord.key hdistinct hf, List.filter_cons,
      BEq.comm]
    split <;> rfl
  calc ((fileEvents functions u).filter (·.1 == f.key)).map (·.2.ref)
      = u.calls.flatMap fun call =>
          ((functions.filter fun callee =>
            callee.name == call.target && call.file != callee.file).filter (·.key == f.key)).map
              fun _ => CallerRef.ofFile call.file := by
        simp only [fileEvents, List.filter_flatMap, List.map_flatMap, List.filter_map, List.map_map]
        rfl
    _ = fileCallers f u := by
        simp only [hcall, flatMap_ite_singleton, fileCallers]

/-- The row of a function holds its callers. -/
theorem map_ref_events (units : List SourceUnit) {f : FunctionRecord}
    (hf : f ∈ distinctFunctions units) :
    ((((events units (distinctFunctions units)).filter (·.1 == f.key)).map (·.2)).eraseDups).map
      (·.ref) = callersOf units f := by
  rw [← eraseDups_map CallerKey.ref_injective, List.map_map, events, List.filter_append,
    List.map_append, List.filter_flatMap, List.filter_flatMap, List.map_flatMap, List.map_flatMap,
    callersOf]
  refine eraseDups_append_congr (eraseDups_flatMap_congr fun u _ => map_ref_functionEvents f u)
    (eraseDups_flatMap_congr fun u _ => ?_)
  exact congrArg List.eraseDups (map_ref_fileEvents (distinctFunctions_pairwise units) hf u)

end CallerTable

/-! ## The graph -/

theorem mapM_eq_ok {α β ε : Type} {f : α → Except ε β} {g : α → β} {xs : List α}
    (h : ∀ x ∈ xs, f x = .ok (g x)) : xs.mapM f = .ok (xs.map g) := by
  induction xs with
  | nil => rfl
  | cons x xs ih =>
    rw [List.mapM_cons, h x (List.mem_cons_self ..), ih fun y hy => h y (List.mem_cons_of_mem _ hy)]
    rfl

/-- The graph that is built by the table of callers. -/
theorem CallGraph.collect_eq (units : List SourceUnit) :
    CallGraph.collect units = .ok (CallGraph.of units) := by
  set t := CallerTable.ofRows ((distinctFunctions units).map (·.key)) fun k =>
    (((CallerTable.events units (distinctFunctions units)).filter (·.1 == k)).map (·.2)).eraseDups
    with ht
  have hflows : ((distinctFunctions units).mapM fun f => do
      return FunctionFlow.ofCallers f (← t.callers f.key)) =
        .ok ((distinctFunctions units).map (FunctionFlow.of units)) := by
    refine mapM_eq_ok fun f hf => ?_
    rw [ht, CallerTable.callers_ofRows (List.mem_map_of_mem hf),
      CallerTable.map_ref_events units hf]
    rfl
  rw [CallGraph.collect, CallerTable.collect_eq, ← ht]
  simp only [bind, Except.bind] at hflows ⊢
  rw [hflows]
  rfl

namespace GraphBuilder

/-! ## The builder -/

theorem run_add (u : SourceUnit) (b : GraphBuilder) :
    (add u).run b =
      if b.closed then .error .addAfterBuild b
      else if b.paths.contains u.path then .ok () b
      else .ok () { b with paths := b.paths ++ [u.path], units := b.units ++ [u] } := by
  rw [add, EStateM.run_bind, EStateM.run_get]
  dsimp only
  split
  · rfl
  · split <;> rfl

theorem run_build (b : GraphBuilder) :
    build.run b =
      if b.closed then .error .builtTwice b
      else .ok (CallGraph.of b.units) { b with closed := true } := by
  rw [build, EStateM.run_bind, EStateM.run_get]
  dsimp only
  rw [CallGraph.collect_eq]
  split <;> rfl

/-- The builder that holds the given units, and their paths. -/
def of (units : List SourceUnit) (closed : Bool) : GraphBuilder :=
  ⟨units, units.map (·.path), closed⟩

/-- An open builder takes every unit, and keeps one whose path is new. -/
theorem add_eq (kept : List SourceUnit) (u : SourceUnit) :
    (add u).run (of kept false) = .ok () (of (insertNew SourceUnit.path kept u) false) := by
  have hpaths : (kept.map (·.path)).contains u.path = kept.any (·.path == u.path) := by
    rw [Bool.eq_iff_iff]
    simp
  rw [run_add, insertNew]
  simp only [of, hpaths]
  split
  · rename_i h
    exact absurd h Bool.false_ne_true
  · split <;> simp

/-- Adding units in turn keeps the first of each path. -/
theorem forM_add (units : List SourceUnit) :
    ∀ kept, (forM units add).run (of kept false) =
      .ok () (of (units.foldl (insertNew SourceUnit.path) kept) false) := by
  induction units with
  | nil => intro kept; rfl
  | cons u units ih =>
    intro kept
    rw [List.forM_cons, EStateM.run_bind, add_eq, List.foldl_cons]
    exact ih _

/-- An open builder can be built. -/
theorem build_eq (units : List SourceUnit) :
    build.run (of units false) = .ok (CallGraph.of units) (of units true) := by
  rw [run_build]
  exact if_neg Bool.false_ne_true

/-- The graph of any list of units can be built. -/
theorem fromUnits_eq (units : List SourceUnit) :
    fromUnits units = .ok (CallGraph.ofUnits units) := by
  have hadd : (forM units add).run {} = .ok () (of (keptUnits units) false) := forM_add units []
  have hrun : (do forM units add; build : BuilderM CallGraph).run {} =
      .ok (CallGraph.ofUnits units) (of (keptUnits units) true) := by
    rw [EStateM.run_bind, hadd]
    exact build_eq _
  rw [fromUnits, BuilderM.outcome, hrun]
  rfl

end GraphBuilder

end CallFlow
