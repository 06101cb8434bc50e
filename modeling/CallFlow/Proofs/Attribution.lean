import CallFlow.Proofs.Extraction

/-!
# Two ways to attribute calls agree

The calls of a function are found going down: `CallNames.ofFunction` walks the body and turns back
at nested functions. The records of a file's calls are attributed going up: `Scan.addCall` looks for
the innermost function among the ancestors. Both select the same calls.

* `map_filter_enclosing_preorder` — the nodes of a body whose innermost function is the body's own
  are those that the scoped walk reaches;
* `CallNames.ofFunction_eq` — the names collected for a function are those of the first callee of
  each name in its scope, the denied ones left out;
* `map_callee_ownRecords` — the callees of the records of its calls are those of its scope too;
* `calls_eq_of_records` — so the names of a function are the targets of its own records.
-/

namespace CallFlow

open CallFlow.Tree (Node Source Place Visit)

/-! ## The calls of a function -/

namespace Tree

/-- The body of a function, with its index. -/
def Place.body? (function : Place) : Option Place :=
  function.children.find? (·.node.label.field == some "body")

/-- Does the visited node lie in the body of the function, and in no function nested in it? -/
def Visit.belongsTo (v function : Visit) : Bool :=
  function.toPlace.body?.any v.liesIn && v.enclosingFunction?.any (·.index == function.index)

/-- The nodes in which the calls of a function are looked for. -/
def Visit.ownScope (function : Visit) : List Place :=
  match function.toPlace.body? with
  | none => []
  | some body => walkScope body

theorem Place.map_node_body (function : Place) :
    function.body?.map (·.node) = function.node.child? "body" := by
  rw [Node.child?, ← map_node_placeAll (function.index + 1) function.node.children, List.find?_map]
  rfl

/-- A function is found as the innermost one if there is none before it on the path. -/
theorem enclosingFunction_append {F : Place} (hF : F.node.isFunction = true) {inner : List Place}
    (hinner : ∀ p ∈ inner, p.node.isFunction = false) (here : Place) (outer : List Place) :
    Visit.enclosingFunction? ⟨here, inner ++ F :: outer⟩ = some F := by
  rw [Visit.enclosingFunction?, List.find?_append, List.find?_eq_none.2 (by simpa using hinner),
    List.find?_cons_of_pos (by exact hF)]
  rfl

/-- Below a nested function `G` the innermost function is not one that was visited before `G`. -/
theorem enclosingFunction_of_nested {F G : Place} (hG : G.node.isFunction = true)
    (hlt : F.index < G.index) {v : Visit} {between above : List Place}
    (hpath : v.ancestors = between ++ G :: above) (hbetween : ∀ p ∈ between, G.index < p.index) :
    v.enclosingFunction?.any (·.index == F.index) = false := by
  rw [Visit.enclosingFunction?, hpath, List.find?_append, List.find?_cons_of_pos (by exact hG)]
  cases hfind : between.find? (·.node.isFunction) with
  | none =>
    have hne : G.index ≠ F.index := by omega
    simpa using hne
  | some p =>
    have hp := hbetween p (List.mem_of_find?_eq_some hfind)
    have hne : p.index ≠ F.index := by omega
    simpa using hne

/-- The nodes of a subtree that are no functions and have `F` as innermost function are those that
the scoped walk reaches, if there is no function between `F` and the subtree. -/
theorem map_filter_enclosing_preorder {F : Place} (hF : F.node.isFunction = true)
    (outer : List Place) :
    (∀ (n : Node) (inner : List Place) (next : Nat), (∀ p ∈ inner, p.node.isFunction = false) →
      F.index < next →
        ((preorder (inner ++ F :: outer) next n).filter fun v =>
          !v.node.isFunction && v.enclosingFunction?.any (·.index == F.index)).map (·.toPlace) =
            scope next n) ∧
    ∀ (cs : List Node) (inner : List Place) (next : Nat), (∀ p ∈ inner, p.node.isFunction = false) →
      F.index < next →
        ((preorderAll (inner ++ F :: outer) next cs).filter fun v =>
          !v.node.isFunction && v.enclosingFunction?.any (·.index == F.index)).map (·.toPlace) =
            scopeAll next cs := by
  refine Node.induction ?node ?nil ?cons
  case node =>
    intro l cs ih inner next hinner hnext
    rw [preorder, scope]
    by_cases hf : (Node.mk l cs).isFunction = true
    · -- a nested function hides everything below it
      rw [if_pos hf, List.filter_cons_of_neg (by simp [hf]), List.map_eq_nil_iff,
        List.filter_eq_nil_iff]
      intro v hv
      obtain ⟨-, -, between, hpath, hbetween⟩ := path_of_mem_preorder.2 _ _ _ v hv
      have hother := enclosingFunction_of_nested (G := ⟨next, .mk l cs⟩) hf hnext hpath
        (fun p hp => (hbetween p hp).1)
      simp [hother]
    · have hhere := enclosingFunction_append hF hinner ⟨next, .mk l cs⟩ outer
      have hinner' : ∀ p ∈ (⟨next, .mk l cs⟩ :: inner : List Place), p.node.isFunction = false := by
        intro p hp
        rcases List.mem_cons.1 hp with rfl | hp
        · simpa using hf
        · exact hinner p hp
      rw [if_neg hf, List.filter_cons_of_pos (by simp [hf, hhere]), List.map_cons]
      exact congrArg (_ :: ·) (ih _ _ hinner' (Nat.lt_succ_of_lt hnext))
  case nil =>
    intro inner next _ _
    rw [preorderAll, scopeAll]
    rfl
  case cons =>
    intro c cs ihc ihcs inner next hinner hnext
    rw [preorderAll, scopeAll, List.filter_append, List.map_append, ihc _ _ hinner hnext,
      ihcs _ _ hinner (Nat.lt_add_right _ hnext)]

/-- The nodes that are no functions and belong to a function are those in its scope. -/
theorem map_filter_belongsTo_walk {root : Node} {F : Visit} (hF : F ∈ walk root)
    (hfun : F.node.isFunction = true) :
    ((walk root).filter fun v => !v.node.isFunction && v.belongsTo F).map (·.toPlace) =
      F.ownScope := by
  rw [Visit.ownScope]
  cases hbody : F.toPlace.body? with
  | none =>
    rw [List.map_eq_nil_iff, List.filter_eq_nil_iff]
    intro v _
    simp [Visit.belongsTo, hbody]
  | some body =>
    have hchild : body ∈ F.toPlace.children := List.mem_of_find?_eq_some hbody
    have hindex : F.index < body.index :=
      (path_of_mem_preorder.2 _ [] _ _ (mem_preorderAll_of_mem_placeAll hchild)).1
    have hsegment : (walk root).filter (·.liesIn body) =
        preorder (F.toPlace :: F.ancestors) body.index body.node :=
      filter_liesIn_walk (mem_walk_of_child hF hchild)
    have hscope := (map_filter_enclosing_preorder hfun F.ancestors).1 body.node [] body.index
      (by simp) hindex
    simp only
    rw [walkScope_eq_scope, ← hscope, List.nil_append, ← hsegment, List.filter_filter]
    refine congrArg (List.map _ ·) (List.filter_congr fun v _ => ?_)
    rw [Visit.belongsTo, hbody, Option.any_some, Bool.and_comm (v.liesIn body), Bool.and_assoc]

/-- A visited call is in the scope of the function it belongs to, and of no other. -/
theorem mem_ownScope_iff {root : Node} {F v : Visit} (hF : F ∈ walk root)
    (hfun : F.node.isFunction = true) (hv : v ∈ walk root) (hcall : v.node.isFunction = false) :
    v.toPlace ∈ F.ownScope ↔ v.belongsTo F = true := by
  rw [← map_filter_belongsTo_walk hF hfun, List.mem_map]
  constructor
  · rintro ⟨w, hw, hwv⟩
    have hmem := List.mem_filter.1 hw
    rw [← eq_of_index_eq hmem.1 hv (congrArg Place.index hwv)]
    exact (Bool.and_eq_true_iff.1 hmem.2).2
  · intro hb
    exact ⟨v, List.mem_filter.2 ⟨hv, by simp [hcall, hb]⟩, rfl⟩

/-- The scopes of different functions have no node in common. -/
theorem eq_of_mem_ownScope {root : Node} {F G : Visit} (hF : F ∈ walk root)
    (hfunF : F.node.isFunction = true) (hG : G ∈ walk root) (hfunG : G.node.isFunction = true)
    {p : Place} (hpF : p ∈ F.ownScope) (hpG : p ∈ G.ownScope) : G = F := by
  rw [← map_filter_belongsTo_walk hF hfunF, List.mem_map] at hpF
  obtain ⟨v, hv, rfl⟩ := hpF
  obtain ⟨hv, hvF⟩ := List.mem_filter.1 hv
  obtain ⟨hnot, hvF⟩ := Bool.and_eq_true_iff.1 hvF
  have hvG := (mem_ownScope_iff hG hfunG hv (by simpa using hnot)).1 hpG
  -- both are the innermost function around the visited node
  obtain ⟨-, hvF⟩ := Bool.and_eq_true_iff.1 hvF
  obtain ⟨-, hvG⟩ := Bool.and_eq_true_iff.1 hvG
  obtain ⟨E, hE, hEF⟩ := (Option.any_eq_true ..).1 hvF
  obtain ⟨E', hE', hEG⟩ := (Option.any_eq_true ..).1 hvG
  obtain rfl : E = E' := Option.some.inj (hE.symm.trans hE')
  exact eq_of_index_eq hG hF ((beq_iff_eq.1 hEG).symm.trans (beq_iff_eq.1 hEF))

end Tree

/-! ## The records of a function's calls -/

/-- The name and form of the callee of a recorded call. -/
def CallRecord.callee (r : CallRecord) : Callee := ⟨r.target, r.kind⟩

/-- The callee of a call that is to be recorded. -/
def Callee.recorded? (t : ScanTarget) (n : Node) : Option Callee :=
  if n.kind = "call_expression" then
    (Callee.of? t.source n).filter (·.isRecorded t.denied)
  else none

namespace Scan

/-- The records of calls that the steps of a walk add, each with the visit that adds it. -/
def callTrace (t : ScanTarget) (s : Scan) : List Visit → List (Visit × CallRecord)
  | [] => []
  | v :: vs => ((s.add t v).calls.drop s.calls.length).map (v, ·) ++ callTrace t (s.add t v) vs

/-- The record that a step adds. -/
theorem add_calls_eq (t : ScanTarget) (s : Scan) (v : Visit) :
    (s.add t v).calls = s.calls ++
      (if v.node.kind = "call_expression" then
        CallRecord.ofCall? t.source t.denied t.file (s.callerName? v) v.node else none).toList := by
  rcases add_cases t s v with ⟨hf, hs⟩ | ⟨-, ⟨hk, hs⟩ | ⟨hk, hs⟩ | ⟨hk, hs⟩ | ⟨hk, -, -, hs⟩⟩
  · simp [hs, addFunction, (kind_of_isFunction hf).1]
  · simp [hs, addCall, hk]
  · simp [hs, hk]
  · simp [hs, hk]
  · simp [hs, hk]

/-- A step adds at most one record of a call, and its callee is that of the visited node. -/
theorem add_calls (t : ScanTarget) (s : Scan) (v : Visit) :
    ∃ new : Option CallRecord, (s.add t v).calls = s.calls ++ new.toList ∧
      new.map (·.callee) = Callee.recorded? t v.node := by
  refine ⟨_, add_calls_eq t s v, ?_⟩
  rw [Callee.recorded?]
  split
  · rw [CallRecord.ofCall_eq_map, Option.map_map]
    exact Option.map_id'
  · rfl

/-- The records of the trace are those that the walk collects. -/
theorem append_callTrace (t : ScanTarget) (vs : List Visit) :
    ∀ s : Scan, s.calls ++ (callTrace t s vs).map (·.2) = (vs.foldl (add t) s).calls := by
  induction vs with
  | nil => intro s; simp [callTrace]
  | cons v vs ih =>
    intro s
    obtain ⟨new, hcalls, -⟩ := add_calls t s v
    rw [List.foldl_cons, ← ih, callTrace, hcalls, List.drop_left, List.map_append, List.map_map,
      List.append_assoc]
    simp [Function.comp_def]

/-- The callees of the trace, each with its visit, do not depend on the state of the walk. -/
theorem map_callee_callTrace (t : ScanTarget) (vs : List Visit) :
    ∀ s : Scan, (callTrace t s vs).map (fun e => (e.1, e.2.callee)) =
      vs.filterMap fun v => (Callee.recorded? t v.node).map (v, ·) := by
  induction vs with
  | nil => intro s; rfl
  | cons v vs ih =>
    intro s
    obtain ⟨new, hcalls, hcallee⟩ := add_calls t s v
    rw [callTrace, List.map_append, ih, hcalls, List.drop_left, List.filterMap_cons, ← hcallee]
    cases new <;> rfl

end Scan

/-- The records of the calls that belong to a function, in the order in which they are added. -/
def ownRecords (src : Source) (denied : List String) (file : String) (root : Node)
    (function : Visit) : List CallRecord :=
  ((Scan.callTrace ⟨src, file, moduleNameOf file, denied⟩ {} (Tree.walk root)).filter
    (·.1.belongsTo function)).map (·.2)

/-- The recorded callees of a list of nodes. -/
theorem filterMap_recorded (t : ScanTarget) (ns : List Node) :
    ns.filterMap (Callee.recorded? t) =
      ((ns.filter (·.kind == "call_expression")).filterMap (Callee.of? t.source)).filter
        (·.isRecorded t.denied) := by
  rw [List.filter_filterMap, List.filterMap_filter]
  refine List.filterMap_congr fun n _ => ?_
  simp only [Callee.recorded?, beq_iff_eq]

/-- The callees of the records of a function's calls are the recorded callees of its scope. -/
theorem map_callee_ownRecords (src : Source) (denied : List String) (file : String) {root : Node}
    {F : Visit} (hF : F ∈ Tree.walk root) (hfun : F.node.isFunction = true) :
    (ownRecords src denied file root F).map (·.callee) =
      (((F.ownScope.map (·.node)).filter (·.kind == "call_expression")).filterMap
        (Callee.of? src)).filter (·.isRecorded denied) := by
  let t : ScanTarget := ⟨src, file, moduleNameOf file, denied⟩
  -- a function is no call, so it does not matter that the scope leaves out nested functions
  have hnone : ∀ v : Visit, v.node.isFunction = true → Callee.recorded? t v.node = none := by
    intro v hv
    rw [Callee.recorded?, if_neg (Scan.kind_of_isFunction hv).1]
  calc (ownRecords src denied file root F).map (·.callee)
      = (((Scan.callTrace t {} (Tree.walk root)).map fun e => (e.1, e.2.callee)).filter
          (·.1.belongsTo F)).map (·.2) := by
        rw [ownRecords, List.filter_map, List.map_map, List.map_map]
        rfl
    _ = (Tree.walk root).filterMap fun v =>
          if !v.node.isFunction && v.belongsTo F then Callee.recorded? t v.node else none := by
        rw [Scan.map_callee_callTrace, List.filter_filterMap, List.map_filterMap]
        refine List.filterMap_congr fun v _ => ?_
        cases hv : v.node.isFunction with
        | true => simp [hnone v hv]
        | false => cases hb : v.belongsTo F <;> cases Callee.recorded? t v.node <;> simp [hb]
    _ = (F.ownScope.map (·.node)).filterMap (Callee.recorded? t) := by
        rw [← Tree.map_filter_belongsTo_walk hF hfun, List.map_map, List.filterMap_map,
          List.filterMap_filter]
        rfl
    _ = _ := filterMap_recorded t _

/-! ## The names of a function's callees -/

namespace CallNames

/-- The names of distinct callees. -/
def ofCallees (kept : List Callee) : CallNames :=
  { calls := kept.map Callee.name
    directCalls := (kept.filter (·.kind == .direct)).map Callee.name }

theorem add_ofCallees (denied : List String) (kept : List Callee) (c : Callee) :
    add denied (ofCallees kept) c =
      ofCallees (if c.isDenied denied then kept else insertNew Callee.name kept c) := by
  have hcontains : (kept.map Callee.name).contains c.name = kept.any (·.name == c.name) := by
    rw [List.contains_eq_any_beq, List.any_map]
    refine congrArg (kept.any ·) (funext fun d => ?_)
    exact BEq.comm
  rw [add, ofCallees, hcontains]
  cases hd : c.isDenied denied with
  | true => rfl
  | false =>
    rw [Bool.false_or, if_neg Bool.false_ne_true, insertNew]
    cases kept.any (·.name == c.name) with
    | true => rfl
    | false => cases hk : c.kind <;> simp [ofCallees, hk]

theorem foldl_add (denied : List String) (cs : List Callee) :
    ∀ kept, cs.foldl (add denied) (ofCallees kept) =
      ofCallees ((cs.filter (!·.isDenied denied)).foldl (insertNew Callee.name) kept) := by
  induction cs with
  | nil => intro kept; rfl
  | cons c cs ih =>
    intro kept
    rw [List.foldl_cons, add_ofCallees, ih]
    cases hd : c.isDenied denied with
    | true => rw [List.filter_cons_of_neg (by simp [hd]), if_pos rfl]
    | false =>
      rw [List.filter_cons_of_pos (by simp [hd]), List.foldl_cons, if_neg Bool.false_ne_true]

/-- The names of a function are those of the first callee of each name in its scope, the denied ones
left out. -/
theorem ofFunction_eq (src : Source) (denied : List String) (F : Visit) :
    ofFunction src denied F.node =
      ofCallees (firstOfEach Callee.name
        ((((F.ownScope.map (·.node)).filter (·.kind == "call_expression")).filterMap
          (Callee.of? src)).filter (!·.isDenied denied))) := by
  rw [ofFunction, ← Tree.Place.map_node_body F.toPlace, Tree.Visit.ownScope]
  cases F.toPlace.body? with
  | none => rfl
  | some body =>
    simp only [Option.map_some]
    rw [Tree.walkScope_eq_scope, Tree.walkScope_eq_scope,
      Tree.map_node_scope.1 body.node 0 body.index, ← foldl_insertNew]
    exact foldl_add denied _ []

theorem filter_ofCallees (p : String → Bool) (kept : List Callee) :
    ofCallees (kept.filter fun c => p c.name) =
      ⟨(ofCallees kept).calls.filter p, (ofCallees kept).directCalls.filter p⟩ := by
  have hdirect : (kept.filter fun c => p c.name).filter (·.kind == .direct) =
      (kept.filter (·.kind == .direct)).filter fun c => p c.name := by
    rw [List.filter_filter, List.filter_filter]
    exact List.filter_congr fun c _ => Bool.and_comm ..
  simp only [ofCallees, hdirect, List.filter_map]
  rfl

/-- Without empty names, only the recorded callees count. -/
theorem filter_firstOfEach_ne_empty (denied : List String) (cs : List Callee) :
    (firstOfEach Callee.name (cs.filter (!·.isDenied denied))).filter (·.name != "") =
      firstOfEach Callee.name (cs.filter (·.isRecorded denied)) := by
  rw [filter_firstOfEach Callee.name (· != ""), List.filter_filter]
  refine congrArg (firstOfEach Callee.name ·) (List.filter_congr fun c _ => ?_)
  have hempty : c.name.isEmpty = (c.name == "") := by
    rw [Bool.eq_iff_iff]
    simp
  rw [Callee.isRecorded, Bool.not_or, hempty]
  rfl

end CallNames

/-! ## Both ways agree -/

/-- Names and direct names of the callees of a list of records, in terms of the records. -/
theorem ofCallees_of_records (own : List CallRecord) :
    CallNames.ofCallees (firstOfEach Callee.name (own.map (·.callee))) =
      { calls := (own.map (·.target)).eraseDups
        directCalls := (own.map (·.target)).eraseDups.filter
          fun name => (own.find? (·.target == name)).any (·.kind == .direct) } := by
  have hcalls : (firstOfEach Callee.name (own.map (·.callee))).map Callee.name =
      (own.map (·.target)).eraseDups := by
    rw [map_key_firstOfEach, List.map_map]
    rfl
  rw [CallNames.ofCallees, ← hcalls, List.filter_map]
  refine congrArg (CallNames.mk _ <| List.map _ ·) (List.filter_congr fun c hc => ?_)
  -- the first callee of its name is that of the first record with this target
  have hfirst := (mem_firstOfEach_iff Callee.name).1 hc
  rw [List.find?_map] at hfirst
  obtain ⟨r, hr, rfl⟩ := Option.map_eq_some_iff.1 hfirst
  have hr' : own.find? (·.target == r.callee.name) = some r := hr
  simp only [Function.comp_apply, hr', Option.any_some]
  rfl

/-- **The two ways of attributing calls agree.** The records that a walk adds for the calls that
belong to a function have as targets, each once, just the names collected for the function; and the
plain names among these are the targets whose first record is of a direct call. A call counts for
the function it belongs to and for no other. -/
theorem calls_eq_of_records (src : Source) (denied : List String) (file : String) (root : Node) :
    (Scan.callTrace ⟨src, file, moduleNameOf file, denied⟩ {} (Tree.walk root)).map (·.2) =
      (SourceUnit.ofTree src denied file root).calls ∧
    ∀ F ∈ Tree.walk root, F.node.isFunction = true →
      let own := ownRecords src denied file root F
      let names := CallNames.ofFunction src denied F.node
      names.calls.filter (· != "") = (own.map (·.target)).eraseDups ∧
      names.directCalls.filter (· != "") = (own.map (·.target)).eraseDups.filter
        (fun name => (own.find? (·.target == name)).any (·.kind == .direct)) ∧
      (∀ v ∈ Tree.walk root, v.node.kind = "call_expression" →
        (v.toPlace ∈ F.ownScope ↔ v.belongsTo F = true)) ∧
      ∀ G ∈ Tree.walk root, G.node.isFunction = true →
        ∀ p ∈ F.ownScope, p ∈ G.ownScope → G = F := by
  refine ⟨Scan.append_callTrace _ _ {}, fun F hF hfun => ?_⟩
  intro own names
  have hnames : CallNames.ofCallees (firstOfEach Callee.name (own.map (·.callee))) =
      ⟨names.calls.filter (· != ""), names.directCalls.filter (· != "")⟩ := by
    rw [map_callee_ownRecords src denied file hF hfun, ← CallNames.filter_firstOfEach_ne_empty,
      CallNames.filter_ofCallees (· != ""), ← CallNames.ofFunction_eq]
  rw [ofCallees_of_records] at hnames
  refine ⟨(congrArg CallNames.calls hnames).symm, (congrArg CallNames.directCalls hnames).symm, ?_,
    fun G hG hfunG p hpF hpG => Tree.eq_of_mem_ownScope hF hfun hG hfunG hpF hpG⟩
  intro v hv hk
  refine Tree.mem_ownScope_iff hF hfun hv ?_
  rw [← Bool.not_eq_true]
  exact fun hf => (Scan.kind_of_isFunction hf).1 hk

/-! ### A nested function -/

namespace Nested

/-- A leaf of one character. -/
def leaf (kind field : String) (start : Nat) : Node :=
  .mk { kind := kind, start := start, stop := start + 1, field := some field } []

/-- A call of the given callee. -/
def call (field : Option String) (callee : Node) : Node :=
  .mk { kind := "call_expression", start := 0, stop := 0, field := field } [callee]

/-- A function `f` that calls `g` and a member `g`, with a nested function that calls `h`. -/
def outer : Node :=
  .mk { kind := "function_declaration", start := 0, stop := 5 }
    [leaf "identifier" "name" 0,
      .mk { kind := "statement_block", start := 2, stop := 5, field := some "body" }
        [call none (leaf "identifier" "function" 2),
          .mk { kind := "arrow_function", start := 4, stop := 5 }
            [call (some "body") (leaf "identifier" "function" 4)],
          call none (.mk { kind := "member_expression", start := 2, stop := 3
                           field := some "function" } [leaf "property_identifier" "property" 2])]]

def root : Node := .mk { kind := "program", start := 0, stop := 5 } [outer]

def source : Source := .ofString "f g h"

end Nested

/-- The outer function has two records, both with target `g`, and one name; `h` is not among
them. -/
theorem calls_eq_of_records_nested :
    let F : Visit := ⟨⟨1, Nested.outer⟩, [⟨0, Nested.root⟩]⟩
    let own := ownRecords Nested.source [] "a.js" Nested.root F
    let names := CallNames.ofFunction Nested.source [] Nested.outer
    F ∈ Tree.walk Nested.root ∧ F.node.isFunction = true ∧ own.map (·.target) = ["g", "g"] ∧
      names.calls.filter (· != "") = (own.map (·.target)).eraseDups ∧
      names.directCalls.filter (· != "") = (own.map (·.target)).eraseDups.filter
        (fun name => (own.find? (·.target == name)).any (·.kind == .direct)) := by
  intro F own names
  have hF : F ∈ Tree.walk Nested.root := by
    rw [Tree.walk_eq_preorder]
    exact .tail _ (.head _)
  obtain ⟨hcalls, hdirect, -⟩ :=
    (calls_eq_of_records Nested.source [] "a.js" Nested.root).2 F hF rfl
  exact ⟨hF, rfl, by decide +kernel, hcalls, hdirect⟩

end CallFlow
