import Mathlib.Data.List.Forall2
import CallFlow.Proofs.FirstOfEach
import CallFlow.Proofs.Walk
import CallFlow.Unit.Extract

/-!
# What extraction means

`SourceUnit.ofTree` collects the records of a file in one walk, with a table of the names given so
far and a counter for made-up names. Its meaning is a recursion on the tree that carries nothing but
the path from the root and the number of names made up so far (`sites`): it gives every node with
its path and, for a function, its name, and each kind of record is read off these.

`Scan.Follows` is the invariant of the walk: the table of names agrees with the names on the path.
It holds after every step (`Follows.step`) and so after every subtree (`scan_eq_sites`).
-/

namespace CallFlow

open CallFlow.Tree (Node Source Place Visit)

/-! ## The meaning -/

/-- The name that the surroundings offer for a function, searched outward from `child`, up to the
next function. The search is `steps` nodes away from the function, so at the second node the
function hangs directly in `child`. -/
def offeredName? (src : Source) (rules : List NamingRule) :
    (steps : Nat) → (child : Node) → (above : List Node) → Option NameMatch
  | _, _, [] => none
  | steps, child, ancestor :: above =>
    if ancestor.isFunction then none
    else
      (rules.findSome? (·.offer src (steps == 1) ancestor child)).or
        (offeredName? src rules (steps + 1) ancestor above)

/-- The name of a function that need not be made up: the one written in it, or else the one offered
by its surroundings. -/
def givenName? (src : Source) (above : List Node) (n : Node) : Option String :=
  ((declaredName? src n).filter (!·.isEmpty)).or
    (((offeredName? src NamingRule.all 0 n above).bind (·.name)).filter (!·.isEmpty))

/-- A node and, if it defines a function, the name of that function. -/
structure NamedNode where
  node : Node
  name : Option String := none

/-- Names a node on a path, and counts the names made up. -/
def NamedNode.of (src : Source) (above : List NamedNode) (madeUp : Nat) (n : Node) :
    NamedNode × Nat :=
  if n.isFunction then
    match givenName? src (above.map (·.node)) n with
    | some name => (⟨n, some name⟩, madeUp)
    | none => (⟨n, some (anonymousName madeUp)⟩, madeUp + 1)
  else (⟨n, none⟩, madeUp)

/-- A node at its place in a tree. -/
structure Site extends NamedNode where
  /-- The path that leads to the node, the parent first and the root last. -/
  above : List NamedNode

mutual

/-- All nodes of a tree at their places, in pre-order, and the number of names made up after
them. -/
def sites (src : Source) (above : List NamedNode) (madeUp : Nat) : Node → List Site × Nat
  | .mk l cs =>
    let here := NamedNode.of src above madeUp (.mk l cs)
    let below := sitesAll src (here.1 :: above) here.2 cs
    (⟨here.1, above⟩ :: below.1, below.2)

/-- The same for a list of siblings. -/
def sitesAll (src : Source) (above : List NamedNode) (madeUp : Nat) : List Node → List Site × Nat
  | [] => ([], madeUp)
  | c :: cs =>
    let first := sites src above madeUp c
    let later := sitesAll src above first.2 cs
    (first.1 ++ later.1, later.2)

end

namespace Site

/-- The name of the innermost function around a node. -/
def caller? (s : Site) : Option String :=
  (s.above.find? (·.node.isFunction)).bind (·.name)

/-- The record of a function. -/
def function? (t : ScanTarget) (s : Site) : Option FunctionRecord :=
  s.name.map fun name => FunctionRecord.ofNode t.source t.denied t.file t.moduleName name s.node

/-- The record of a call whose callee has a name, unless it is a direct call of a denied name. -/
def call? (t : ScanTarget) (s : Site) : Option CallRecord :=
  if s.node.kind = "call_expression" then
    match Callee.of? t.source s.node with
    | some callee =>
      if callee.name ≠ "" ∧ ¬(callee.kind = .direct ∧ callee.name ∈ t.denied) then
        some { file := t.file, caller := s.caller?, target := callee.name,
               line := s.node.line t.source, column := s.node.column t.source, kind := callee.kind }
      else none
    | none => none
  else none

/-- The record of an import statement or of a call that obtains a module. -/
def import? (t : ScanTarget) (s : Site) : Option ImportRecord :=
  if s.node.kind = "import_statement" then ImportRecord.ofStatement? t.source s.node
  else if s.node.kind = "call_expression" then
    ImportRecord.ofCall? t.source (s.above.head?.map (·.node)) s.node
  else none

/-- The record of an export statement. -/
def export? (t : ScanTarget) (s : Site) : Option ExportRecord :=
  if s.node.kind = "export_statement" then ExportRecord.ofStatement? t.source s.node else none

end Site

/-- The records of a file, read off the nodes of its tree in pre-order. -/
def SourceUnit.meaning (src : Source) (denied : List String) (file : String) (root : Node) :
    SourceUnit :=
  let t : ScanTarget := ⟨src, file, moduleNameOf file, denied⟩
  let all := (sites src [] 0 root).1
  { path := file, moduleName := moduleNameOf file
    functions := firstOfEach FunctionRecord.key (all.filterMap (·.function? t))
    calls := all.filterMap (·.call? t)
    imports := all.filterMap (·.import? t)
    exports := all.filterMap (·.export? t) }

/-! ## Names by path -/

/-- Searching along the indexed path is searching along its nodes, if the only place on the path
that the function hangs directly in is its parent. -/
theorem findSome_path_eq_offeredName (src : Source) (rules : List NamingRule) (v : Visit) :
    ∀ (rest : List Place) (child : Place) (steps : Nat),
      (∀ i p, (child :: rest)[i]? = some p → NamingRule.isArgumentOf v p = (steps + i == 1)) →
      ((rest.zip (child :: rest)).takeWhile (!·.1.node.isFunction)).findSome?
          (fun e => rules.findSome? (NamingRule.apply src v e.1 e.2)) =
        offeredName? src rules steps child.node (rest.map (·.node)) := by
  intro rest
  induction rest with
  | nil => intro child steps _; rfl
  | cons a rest ih =>
    intro child steps h
    have hchild : NamingRule.isArgumentOf v child = (steps == 1) := h 0 child rfl
    have hrest : ∀ i p, (a :: rest)[i]? = some p →
        NamingRule.isArgumentOf v p = (steps + 1 + i == 1) := by
      intro i p hp
      rw [h (i + 1) p hp, Nat.add_assoc, Nat.add_comm 1 i]
    rw [List.zip_cons_cons, List.map_cons, offeredName?]
    by_cases hf : a.node.isFunction = true
    · rw [List.takeWhile_cons_of_neg (by simp [hf]), if_pos hf]
      rfl
    · rw [List.takeWhile_cons_of_pos (by simp [hf]), if_neg hf, List.findSome?_cons, ih a _ hrest]
      have happly : NamingRule.apply src v a child =
          (·.offer src (steps == 1) a.node child.node) := by
        funext rule
        rw [NamingRule.apply, hchild]
      rw [happly]
      cases rules.findSome? (·.offer src (steps == 1) a.node child.node) <;> rfl

/-- On a path whose indices fall towards the root, the function hangs directly in the second place
only: in its parent. -/
theorem isArgumentOf_path {v : Visit} (hbelow : ∀ p ∈ v.ancestors, p.index < v.index)
    (hfall : v.ancestors.Pairwise fun p q => q.index < p.index) (i : Nat) (p : Place)
    (hp : (v.toPlace :: v.ancestors)[i]? = some p) :
    NamingRule.isArgumentOf v p = (0 + i == 1) := by
  obtain ⟨here, above⟩ := v
  cases above with
  | nil =>
    -- without ancestors there is no parent, and no second place
    have hi : i < 1 := (List.getElem?_eq_some_iff.1 hp).1
    have hi1 : (0 + i == 1) = false := by simp; omega
    rw [hi1]
    rfl
  | cons a above =>
    match i with
    | 0 =>
      have ha : a.index ≠ here.index := Nat.ne_of_lt (hbelow a (List.mem_cons_self ..))
      obtain rfl : here = p := by simpa using hp
      simpa [NamingRule.isArgumentOf, Visit.parent?] using ha
    | 1 =>
      obtain rfl : a = p := by simpa using hp
      simp [NamingRule.isArgumentOf, Visit.parent?]
    | i + 2 =>
      have hmem : p ∈ above := List.mem_of_getElem? (by simpa using hp)
      have ha : a.index ≠ p.index := Nat.ne_of_gt (List.rel_of_pairwise_cons hfall hmem)
      simpa [NamingRule.isArgumentOf, Visit.parent?] using ha

/-- The name of a visited function by the names of its path. -/
theorem resolveName_eq {src : Source} {v : Visit} (hbelow : ∀ p ∈ v.ancestors, p.index < v.index)
    (hfall : v.ancestors.Pairwise fun p q => q.index < p.index) (counter : Nat) :
    resolveName src NamingRule.all v counter =
      match givenName? src (v.ancestors.map (·.node)) v.node with
      | some name => (name, counter)
      | none => (anonymousName counter, counter + 1) := by
  have hfind : findName? src NamingRule.all v =
      offeredName? src NamingRule.all 0 v.node (v.ancestors.map (·.node)) :=
    findSome_path_eq_offeredName src NamingRule.all v v.ancestors v.toPlace 0
      (isArgumentOf_path hbelow hfall)
  rw [resolveName, givenName?, hfind]
  cases (declaredName? src v.node).filter (!·.isEmpty) <;> rfl

/-! ## Recorded calls -/

/-- Is a call of this callee to be recorded? -/
def Callee.isRecorded (denied : List String) (c : Callee) : Bool :=
  !(c.name.isEmpty || c.isDenied denied)

theorem Callee.isRecorded_iff {denied : List String} {c : Callee} :
    c.isRecorded denied = true ↔ c.name ≠ "" ∧ ¬(c.kind = .direct ∧ c.name ∈ denied) := by
  simp [isRecorded, isDenied, imp_iff_not_or]

theorem CallRecord.ofCall_eq_map (src : Source) (denied : List String) (file : String)
    (caller : Option String) (n : Node) :
    CallRecord.ofCall? src denied file caller n =
      ((Callee.of? src n).filter (·.isRecorded denied)).map fun c =>
        { file := file, caller := caller, target := c.name, line := n.line src,
          column := n.column src, kind := c.kind } := by
  rw [CallRecord.ofCall?]
  cases Callee.of? src n with
  | none => rfl
  | some c =>
    rw [Option.filter_some, Option.bind_eq_bind, Option.bind_some, Callee.isRecorded]
    generalize (!(c.name.isEmpty || c.isDenied denied)) = kept
    cases kept <;> rfl

/-! ## The invariant of the walk -/

namespace Scan

/-- A place on the path of the walk and the node it stands for: the table of names holds the name of
every function. -/
def Stands (names : List (Nat × String)) (p : Place) (q : NamedNode) : Prop :=
  p.node = q.node ∧ (q.node.isFunction = true → names.lookup p.index = q.name)

/-- The state `s` of the walk agrees with the path along which the next node is reached. -/
structure Follows (s : Scan) (above : List Place) (path : List NamedNode) (next : Nat) : Prop where
  stands : List.Forall₂ (Stands s.names) above path
  /-- All nodes of the path have been visited. -/
  below : ∀ p ∈ above, p.index < next
  /-- A parent is visited before its children. -/
  falls : above.Pairwise fun p q => q.index < p.index
  /-- All nodes of the table have been visited. -/
  visited : ∀ e ∈ s.names, e.1 < next

theorem map_node_of_stands {names : List (Nat × String)} {above : List Place}
    {path : List NamedNode} (h : List.Forall₂ (Stands names) above path) :
    above.map (·.node) = path.map (·.node) := by
  induction h with
  | nil => rfl
  | cons hpq _ ih => rw [List.map_cons, List.map_cons, hpq.1, ih]

/-- The table gives the name of the innermost function of the path. -/
theorem callerName_eq {s : Scan} {above : List Place} {path : List NamedNode}
    (h : List.Forall₂ (Stands s.names) above path) (here : Place) :
    s.callerName? ⟨here, above⟩ = (path.find? (·.node.isFunction)).bind (·.name) := by
  rw [callerName?, Visit.enclosingFunction?]
  induction h with
  | nil => rfl
  | @cons p q above path hpq _ ih =>
    by_cases hf : q.node.isFunction = true
    · rw [List.find?_cons_of_pos (by rw [hpq.1]; exact hf), List.find?_cons_of_pos (by exact hf)]
      exact hpq.2 hf
    · rw [List.find?_cons_of_neg (by rw [hpq.1]; exact hf), List.find?_cons_of_neg (by exact hf),
        ih]

theorem lookup_append_of_lt {next i : Nat} (hi : i < next) (name : Option String)
    (names : List (Nat × String)) :
    (name.toList.map (next, ·) ++ names).lookup i = names.lookup i := by
  cases name with
  | none => rfl
  | some name =>
    have hne : (i == next) = false := by simp; omega
    simp [List.lookup_cons, hne]

namespace Follows

variable {s s' : Scan} {above : List Place} {path : List NamedNode} {next : Nat}

/-- Below a node that has just been visited. -/
theorem push (h : Follows s above path next) (q : NamedNode)
    (hq : q.node.isFunction = true → q.name.isSome = true)
    (hnames : s'.names = q.name.toList.map (next, ·) ++ s.names) :
    Follows s' (⟨next, q.node⟩ :: above) (q :: path) (next + 1) where
  stands := by
    rw [hnames]
    refine List.Forall₂.cons ⟨rfl, fun hf => ?_⟩ ?_
    · obtain ⟨name, hname⟩ := Option.isSome_iff_exists.1 (hq hf)
      simp [hname]
    · -- the new entry is for a later node than those of the path
      refine List.Forall₂.imp ?_ ((List.forall₂_and_left _ _).2 ⟨h.below, h.stands⟩)
      rintro p r ⟨hlt, hnode, hname⟩
      exact ⟨hnode, fun hf => by rw [lookup_append_of_lt hlt, hname hf]⟩
  below := by
    intro p hp
    rcases List.mem_cons.1 hp with rfl | hp
    · exact Nat.lt_succ_self _
    · exact Nat.lt_succ_of_lt (h.below p hp)
  falls := List.Pairwise.cons h.below h.falls
  visited := by
    rw [hnames]
    intro e he
    rcases List.mem_append.1 he with he | he
    · obtain ⟨name, -, rfl⟩ := List.mem_map.1 he
      exact Nat.lt_succ_self _
    · exact Nat.lt_succ_of_lt (h.visited e he)

/-- Back at the path of a node, after everything below it. -/
theorem pop {p : Place} {q : NamedNode} (h : Follows s (p :: above) (q :: path) next) :
    Follows s above path next where
  stands := (List.forall₂_cons.1 h.stands).2
  below := fun r hr => h.below r (List.mem_cons_of_mem _ hr)
  falls := h.falls.of_cons
  visited := h.visited

end Follows

/-! ## One step and whole subtrees -/

/-- The state `s'` holds what `s` holds and the records read off the given nodes. -/
structure Extends (t : ScanTarget) (s s' : Scan) (found : List Site) : Prop where
  functions : s'.functions =
    (found.filterMap (·.function? t)).foldl (insertNew FunctionRecord.key) s.functions
  calls : s'.calls = s.calls ++ found.filterMap (·.call? t)
  imports : s'.imports = s.imports ++ found.filterMap (·.import? t)
  exports : s'.exports = s.exports ++ found.filterMap (·.export? t)

theorem Extends.refl (t : ScanTarget) (s : Scan) : Extends t s s [] := by
  constructor <;> simp

theorem Extends.trans {t : ScanTarget} {s s' s'' : Scan} {found later : List Site}
    (h : Extends t s s' found) (h' : Extends t s' s'' later) :
    Extends t s s'' (found ++ later) where
  functions := by rw [h'.functions, h.functions, List.filterMap_append, List.foldl_append]
  calls := by rw [h'.calls, h.calls, List.filterMap_append, List.append_assoc]
  imports := by rw [h'.imports, h.imports, List.filterMap_append, List.append_assoc]
  exports := by rw [h'.exports, h.exports, List.filterMap_append, List.append_assoc]

theorem kind_of_isFunction {n : Node} (h : n.isFunction = true) :
    n.kind ≠ "call_expression" ∧ n.kind ≠ "import_statement" ∧ n.kind ≠ "export_statement" := by
  rw [Node.isFunction, Bool.and_eq_true, List.contains_iff_mem] at h
  refine ⟨?_, ?_, ?_⟩ <;>
  · intro hk
    rw [hk] at h
    exact absurd h.2 (by decide)

/-- All that a step can do. -/
theorem add_cases (t : ScanTarget) (s : Scan) (v : Visit) :
    (v.node.isFunction = true ∧ s.add t v = s.addFunction t v) ∨
    v.node.isFunction = false ∧
      ((v.node.kind = "call_expression" ∧ s.add t v = s.addCall t v) ∨
      (v.node.kind = "import_statement" ∧ s.add t v = { s with
        imports := s.imports ++ (ImportRecord.ofStatement? t.source v.node).toList }) ∨
      (v.node.kind = "export_statement" ∧ s.add t v = { s with
        exports := s.exports ++ (ExportRecord.ofStatement? t.source v.node).toList }) ∨
      (v.node.kind ≠ "call_expression" ∧ v.node.kind ≠ "import_statement" ∧
        v.node.kind ≠ "export_statement" ∧ s.add t v = s)) := by
  rw [add]
  cases hf : v.node.isFunction with
  | true => exact Or.inl ⟨rfl, rfl⟩
  | false =>
    refine Or.inr ⟨rfl, ?_⟩
    rw [if_neg Bool.false_ne_true]
    split
    · exact Or.inl ⟨‹_›, rfl⟩
    · exact Or.inr (Or.inl ⟨‹_›, rfl⟩)
    · exact Or.inr (Or.inr (Or.inl ⟨‹_›, rfl⟩))
    · exact Or.inr (Or.inr (Or.inr ⟨‹_›, ‹_›, ‹_›, rfl⟩))

theorem filterMap_singleton {α β : Type} (f : α → Option β) (x : α) :
    [x].filterMap f = (f x).toList := by
  cases h : f x <;> simp [h]

/-- The record of a call under the name of the function around it. -/
theorem ofCall_eq {t : ScanTarget} {site : Site} (hk : site.node.kind = "call_expression") :
    CallRecord.ofCall? t.source t.denied t.file site.caller? site.node = site.call? t := by
  rw [CallRecord.ofCall_eq_map, Site.call?, if_pos hk]
  cases Callee.of? t.source site.node with
  | none => rfl
  | some c =>
    simp only [Option.filter_some, Callee.isRecorded_iff]
    split <;> rfl

/-- The name that the walk gives to a function is the one it has by its path. -/
theorem Follows.namedNode_eq (src : Source) {s : Scan} {above : List Place} {path : List NamedNode}
    {next : Nat} (h : Follows s above path next) {n : Node} (hf : n.isFunction = true) :
    NamedNode.of src path s.counter n =
      (⟨n, some (resolveName src NamingRule.all ⟨⟨next, n⟩, above⟩ s.counter).1⟩,
        (resolveName src NamingRule.all ⟨⟨next, n⟩, above⟩ s.counter).2) := by
  rw [NamedNode.of, if_pos hf, resolveName_eq h.below h.falls, ← map_node_of_stands h.stands]
  cases givenName? src (above.map (·.node)) n <;> rfl

/-- One step of the walk: what is added is read off the visited node, and the path goes on. -/
theorem Follows.step (t : ScanTarget) {s : Scan} {above : List Place} {path : List NamedNode}
    {next : Nat} (h : Follows s above path next) (n : Node) :
    let here := NamedNode.of t.source path s.counter n
    let s' := s.add t ⟨⟨next, n⟩, above⟩
    s'.counter = here.2 ∧ Extends t s s' [⟨here.1, path⟩] ∧
      Follows s' (⟨next, n⟩ :: above) (here.1 :: path) (next + 1) := by
  intro here s'
  rcases add_cases t s ⟨⟨next, n⟩, above⟩ with ⟨hf, hs'⟩ | ⟨hf, hother⟩
  · obtain ⟨hcall, himport, hexport⟩ := kind_of_isFunction hf
    have hhere : here = _ := h.namedNode_eq t.source hf
    rw [show s' = _ from hs', hhere]
    refine ⟨rfl, ⟨rfl, ?_, ?_, ?_⟩, h.push ⟨n, some _⟩ (fun _ => rfl) rfl⟩
    · simp [addFunction, Site.call?, hcall]
    · simp [addFunction, Site.import?, hcall, himport]
    · simp [addFunction, Site.export?, hexport]
  · have hhere : here = (⟨n, none⟩, s.counter) := by
      simp only [here]
      rw [NamedNode.of, if_neg (by simpa using hf)]
    have hfollows {s₁ : Scan} (hnames : s₁.names = s.names) :
        Follows s₁ (⟨next, n⟩ :: above) (⟨n, none⟩ :: path) (next + 1) :=
      h.push ⟨n, none⟩ (fun hf' => absurd hf' (by simpa using hf)) hnames
    rw [hhere]
    simp only at hother
    rcases hother with ⟨hk, hs'⟩ | ⟨hk, hs'⟩ | ⟨hk, hs'⟩ | ⟨hcall, himport, hexport, hs'⟩
    · have hrecord : CallRecord.ofCall? t.source t.denied t.file
          (s.callerName? ⟨⟨next, n⟩, above⟩) n = Site.call? t ⟨⟨n, none⟩, path⟩ := by
        rw [callerName_eq h.stands]
        exact @ofCall_eq t ⟨⟨n, none⟩, path⟩ hk
      have hparent : above.head?.map (·.node) = path.head?.map (·.node) := by
        rw [← List.head?_map, ← List.head?_map, map_node_of_stands h.stands]
      rw [show s' = _ from hs']
      refine ⟨rfl, ⟨rfl, ?_, ?_, ?_⟩, hfollows rfl⟩
      · rw [addCall, hrecord, filterMap_singleton]
      · rw [addCall, filterMap_singleton, Visit.parent?, hparent]
        simp [Site.import?, hk]
      · simp [addCall, Site.export?, hk]
    · rw [show s' = _ from hs']
      refine ⟨rfl, ⟨rfl, ?_, ?_, ?_⟩, hfollows rfl⟩
      · simp [Site.call?, hk]
      · rw [filterMap_singleton, Site.import?, if_pos hk]
      · simp [Site.export?, hk]
    · rw [show s' = _ from hs']
      refine ⟨rfl, ⟨rfl, ?_, ?_, ?_⟩, hfollows rfl⟩
      · simp [Site.call?, hk]
      · simp [Site.import?, hk]
      · rw [filterMap_singleton, Site.export?, if_pos hk]
    · rw [show s' = _ from hs']
      refine ⟨rfl, ⟨rfl, ?_, ?_, ?_⟩, hfollows rfl⟩
      · simp [Site.call?, hcall]
      · simp [Site.import?, hcall, himport]
      · simp [Site.export?, hexport]

/-- The walk over a subtree: what is added is read off the nodes of the subtree, and the path above
it is still agreed on. -/
theorem scan_eq_sites (t : ScanTarget) :
    (∀ (n : Node) (s : Scan) (above : List Place) (path : List NamedNode) (next : Nat),
      Follows s above path next →
        let found := sites t.source path s.counter n
        let s' := (Tree.preorder above next n).foldl (Scan.add t) s
        s'.counter = found.2 ∧ Extends t s s' found.1 ∧ Follows s' above path (next + n.size)) ∧
    ∀ (cs : List Node) (s : Scan) (above : List Place) (path : List NamedNode) (next : Nat),
      Follows s above path next →
        let found := sitesAll t.source path s.counter cs
        let s' := (Tree.preorderAll above next cs).foldl (Scan.add t) s
        s'.counter = found.2 ∧ Extends t s s' found.1 ∧
          Follows s' above path (next + Node.sizeAll cs) := by
  refine Node.induction ?node ?nil ?cons
  case node =>
    intro l cs ih s above path next h
    obtain ⟨hcounter, hextends, hfollows⟩ := h.step t (.mk l cs)
    obtain ⟨hcounter', hextends', hfollows'⟩ := ih _ _ _ _ hfollows
    rw [hcounter] at hcounter' hextends'
    refine ⟨?_, ?_, ?_⟩
    · rw [Tree.preorder, List.foldl_cons, sites]
      exact hcounter'
    · rw [Tree.preorder, List.foldl_cons, sites]
      exact hextends.trans hextends'
    · rw [Tree.preorder, List.foldl_cons, Node.size, ← Nat.add_assoc]
      exact hfollows'.pop
  case nil =>
    intro s above path next h
    exact ⟨rfl, Extends.refl t s, h⟩
  case cons =>
    intro c cs ihc ihcs s above path next h
    obtain ⟨hcounter, hextends, hfollows⟩ := ihc s above path next h
    obtain ⟨hcounter', hextends', hfollows'⟩ := ihcs _ _ _ _ hfollows
    rw [hcounter] at hcounter' hextends'
    refine ⟨?_, ?_, ?_⟩
    · rw [Tree.preorderAll, List.foldl_append, sitesAll]
      exact hcounter'
    · rw [Tree.preorderAll, List.foldl_append, sitesAll]
      exact hextends.trans hextends'
    · rw [Tree.preorderAll, List.foldl_append, Node.sizeAll, ← Nat.add_assoc]
      exact hfollows'

end Scan

/-- **Extraction means what the recursion on the tree says.** The records that one walk collects,
with a work list, a shared list of ancestors, a table of names and a counter, are those read off the
nodes of the tree in pre-order. -/
theorem SourceUnit.ofTree_eq_meaning (src : Source) (denied : List String) (file : String)
    (root : Node) :
    SourceUnit.ofTree src denied file root = SourceUnit.meaning src denied file root := by
  let t : ScanTarget := ⟨src, file, moduleNameOf file, denied⟩
  have hstart : Scan.Follows {} [] [] 0 := ⟨List.Forall₂.nil, by simp, List.Pairwise.nil, by simp⟩
  obtain ⟨-, hextends, -⟩ := (Scan.scan_eq_sites t).1 root {} [] [] 0 hstart
  rw [← Tree.walk_eq_preorder] at hextends
  rw [SourceUnit.ofTree, SourceUnit.meaning]
  simp only [SourceUnit.mk.injEq, true_and, and_true]
  refine ⟨?_, hextends.calls, hextends.imports, hextends.exports⟩
  rw [← foldl_insertNew]
  exact hextends.functions

end CallFlow
