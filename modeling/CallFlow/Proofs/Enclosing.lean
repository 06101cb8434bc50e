import CallFlow.Proofs.Walk

/-!
# What lies around a node

A walk carries the ancestors of each node as a list. Here that list is compared with the tree. The
indices of a subtree are consecutive, so a node lies below another if its index falls among those of
the other's subtree (`Place.Encloses`).

* `mem_walk_of_ancestor` — the ancestors of a visited node are visited too, each by the rest of the
  path;
* `mem_ancestors_iff` — they are the nodes that enclose the visited one, and `ancestors_pairwise`
  says that they stand in order, the innermost first;
* `mem_path_iff` — the path gives with each of them the child through which it is entered;
* `enclosingFunction_eq_some_iff` — the function found around a node is the innermost one.
-/

namespace CallFlow.Tree

/-- The nodes of a tree with their indices, in pre-order. -/
def places (root : Node) : List Place :=
  (walk root).map (·.toPlace)

/-- Does `q` lie below `p`? The indices of a subtree are consecutive, that of its root first. -/
def Place.Encloses (p q : Place) : Prop :=
  p.index < q.index ∧ q.index < p.index + p.node.size

instance (p q : Place) : Decidable (p.Encloses q) :=
  inferInstanceAs (Decidable (_ ∧ _))

/-- Is the place `q` reached from `p` through the child `c`? -/
def Place.EntersThrough (p c q : Place) : Prop :=
  c ∈ p.children ∧ (c = q ∨ c.Encloses q)

/-- `F` is the innermost function around the place `q` of a tree. -/
structure IsInnermostFunction (root : Node) (q F : Place) : Prop where
  mem : F ∈ places root
  isFunction : F.node.isFunction = true
  encloses : F.Encloses q
  innermost : ∀ G ∈ places root, G.node.isFunction = true → G.Encloses q → G = F ∨ G.Encloses F

theorem mem_places_of_mem_walk {root : Node} {v : Visit} (hv : v ∈ walk root) :
    v.toPlace ∈ places root :=
  List.mem_map_of_mem hv

theorem Place.Encloses.asymm {p q : Place} (h : p.Encloses q) : ¬q.Encloses p := by
  intro h'
  have := h.1
  have := h'.1
  omega

/-! ## Parents -/

/-- Every visit of a subtree but the first has a parent there, of whose children it is one. -/
theorem exists_parent_of_mem_preorder :
    (∀ (n : Node) (above : List Place) (next : Nat), ∀ v ∈ preorder above next n,
      v = ⟨⟨next, n⟩, above⟩ ∨ ∃ w ∈ preorder above next n,
        v.ancestors = w.toPlace :: w.ancestors ∧ v.toPlace ∈ w.toPlace.children) ∧
    ∀ (cs : List Node) (above : List Place) (next : Nat), ∀ v ∈ preorderAll above next cs,
      (v.ancestors = above ∧ v.toPlace ∈ placeAll next cs) ∨ ∃ w ∈ preorderAll above next cs,
        v.ancestors = w.toPlace :: w.ancestors ∧ v.toPlace ∈ w.toPlace.children := by
  refine Node.induction ?node ?nil ?cons
  case node =>
    intro l cs ih above next v hv
    rw [preorder] at hv ⊢
    rcases List.mem_cons.1 hv with rfl | hv
    · exact Or.inl rfl
    · right
      rcases ih _ _ v hv with ⟨hpath, hmem⟩ | ⟨w, hw, hparent⟩
      · exact ⟨⟨⟨next, .mk l cs⟩, above⟩, List.mem_cons_self .., hpath, hmem⟩
      · exact ⟨w, List.mem_cons_of_mem _ hw, hparent⟩
  case nil =>
    intro above next v hv
    rw [preorderAll] at hv
    exact absurd hv (List.not_mem_nil)
  case cons =>
    intro c cs ihc ihcs above next v hv
    rw [preorderAll] at hv ⊢
    rw [placeAll]
    rcases List.mem_append.1 hv with hv | hv
    · rcases ihc _ _ v hv with rfl | ⟨w, hw, hparent⟩
      · exact Or.inl ⟨rfl, List.mem_cons_self ..⟩
      · exact Or.inr ⟨w, List.mem_append_left _ hw, hparent⟩
    · rcases ihcs _ _ v hv with ⟨hpath, hmem⟩ | ⟨w, hw, hparent⟩
      · exact Or.inl ⟨hpath, List.mem_cons_of_mem _ hmem⟩
      · exact Or.inr ⟨w, List.mem_append_right _ hw, hparent⟩

/-- The parent of a visited node is visited, and has it among its children. -/
theorem mem_walk_of_parent {root : Node} {v : Visit} (hv : v ∈ walk root) {p : Place}
    {above : List Place} (h : v.ancestors = p :: above) :
    ⟨p, above⟩ ∈ walk root ∧ v.toPlace ∈ p.children := by
  rw [walk_eq_preorder] at hv ⊢
  rcases exists_parent_of_mem_preorder.1 root [] 0 v hv with rfl | ⟨w, hw, hpath, hchild⟩
  · exact absurd h.symm (List.cons_ne_nil _ _)
  · obtain ⟨rfl, rfl⟩ := List.cons.inj (hpath.symm.trans h)
    exact ⟨hw, hchild⟩

/-- The ancestors of a visited node are visited, each by the rest of the path. -/
theorem mem_walk_of_ancestor {root : Node} {p : Place} {outer : List Place} :
    ∀ {inner : List Place} {v : Visit}, v ∈ walk root → v.ancestors = inner ++ p :: outer →
      ⟨p, outer⟩ ∈ walk root := by
  intro inner
  induction inner with
  | nil => exact fun hv h => (mem_walk_of_parent hv h).1
  | cons q inner ih => exact fun hv h => ih (mem_walk_of_parent hv h).1 rfl

theorem exists_visit_of_mem_ancestors {root : Node} {v : Visit} (hv : v ∈ walk root) {p : Place}
    (hp : p ∈ v.ancestors) : ∃ w ∈ walk root, w.toPlace = p := by
  obtain ⟨inner, outer, hpath⟩ := List.append_of_mem hp
  exact ⟨⟨p, outer⟩, mem_walk_of_ancestor hv hpath, rfl⟩

/-! ## Ancestors -/

/-- A node lies in the subtree of another if its index is one of the subtree's. -/
theorem liesIn_iff_index {root : Node} {v w : Visit} (hv : v ∈ walk root) (hw : w ∈ walk root) :
    v.liesIn w.toPlace = true ↔ w.index ≤ v.index ∧ v.index < w.index + w.node.size := by
  have hsegment := filter_liesIn_walk hw
  constructor
  · intro h
    have hmem : v ∈ preorder w.ancestors w.index w.node := by
      rw [← hsegment]
      exact List.mem_filter.2 ⟨hv, h⟩
    obtain ⟨hlo, hhi, -⟩ := path_of_mem_preorder.1 _ _ _ v hmem
    exact ⟨hlo, hhi⟩
  · intro hrange
    -- the subtree has a visit of this index, and an index names one visit of the tree
    have hindex : v.index ∈ (preorder w.ancestors w.index w.node).map (·.index) := by
      rw [index_preorder.1, List.mem_range'_1]
      exact hrange
    obtain ⟨u, hu, huv⟩ := List.mem_map.1 hindex
    rw [← hsegment] at hu
    obtain ⟨huwalk, hlies⟩ := List.mem_filter.1 hu
    rw [← eq_of_index_eq huwalk hv huv]
    exact hlies

/-- The ancestors of a visited node are the nodes of the tree that enclose it. -/
theorem mem_ancestors_iff {root : Node} {v : Visit} (hv : v ∈ walk root) {p : Place} :
    p ∈ v.ancestors ↔ p ∈ places root ∧ p.Encloses v.toPlace := by
  constructor
  · intro hp
    obtain ⟨w, hw, rfl⟩ := exists_visit_of_mem_ancestors hv hp
    obtain ⟨hlo, hhi⟩ := (liesIn_iff_index hv hw).1 (Visit.liesIn_iff.2 (Or.inr ⟨_, hp, rfl⟩))
    rw [walk_eq_preorder] at hv
    obtain ⟨-, -, between, hpath, hbetween⟩ := path_of_mem_preorder.1 root [] 0 v hv
    rw [hpath, List.append_nil] at hp
    exact ⟨mem_places_of_mem_walk hw, (hbetween _ hp).2, hhi⟩
  · rintro ⟨hp, hlt, hhi⟩
    obtain ⟨w, hw, rfl⟩ := List.mem_map.1 hp
    have hlies := (liesIn_iff_index hv hw).2 ⟨Nat.le_of_lt hlt, hhi⟩
    rcases Visit.liesIn_iff.1 hlies with heq | ⟨a, ha, hindex⟩
    · exact absurd heq (Nat.ne_of_gt hlt)
    · obtain ⟨u, hu, rfl⟩ := exists_visit_of_mem_ancestors hv ha
      rw [← eq_of_index_eq hu hw hindex]
      exact ha

/-- Each ancestor encloses those that come before it. -/
theorem ancestors_pairwise {root : Node} {v : Visit} (hv : v ∈ walk root) :
    v.ancestors.Pairwise fun p q => q.Encloses p := by
  obtain ⟨here, above⟩ := v
  induction above generalizing here with
  | nil => exact List.Pairwise.nil
  | cons p above ih =>
    have hp := (mem_walk_of_parent hv rfl).1
    exact List.Pairwise.cons (fun q hq => ((mem_ancestors_iff hp).1 hq).2) (ih p hp)

/-! ## The child on the path -/

theorem le_index_of_mem_placeAll {p : Place} {cs : List Node} :
    ∀ {next : Nat}, p ∈ placeAll next cs → next ≤ p.index := by
  induction cs with
  | nil => exact fun hp => absurd hp (List.not_mem_nil)
  | cons c cs ih =>
    intro next hp
    rcases List.mem_cons.1 hp with rfl | hp
    · exact Nat.le_refl _
    · have := ih hp
      omega

/-- The subtrees of siblings have no index in common. -/
theorem eq_of_mem_placeAll {p q : Place} {i : Nat} (hp : p.index ≤ i ∧ i < p.index + p.node.size)
    (hq : q.index ≤ i ∧ i < q.index + q.node.size) {cs : List Node} :
    ∀ {next : Nat}, p ∈ placeAll next cs → q ∈ placeAll next cs → p = q := by
  induction cs with
  | nil => exact fun h => absurd h (List.not_mem_nil)
  | cons c cs ih =>
    intro next hmemp hmemq
    rcases List.mem_cons.1 hmemp with rfl | hmemp <;> rcases List.mem_cons.1 hmemq with rfl | hmemq
    · rfl
    · have := le_index_of_mem_placeAll hmemq
      simp only at hp
      omega
    · have := le_index_of_mem_placeAll hmemp
      simp only at hq
      omega
    · exact ih hmemp hmemq

theorem Node.size_pos (n : Node) : 0 < n.size := by
  rw [Node.size_eq]
  omega

theorem Place.EntersThrough.index {p c q : Place} (h : p.EntersThrough c q) :
    c.index ≤ q.index ∧ q.index < c.index + c.node.size := by
  rcases h.2 with rfl | h
  · have := Node.size_pos c.node
    omega
  · exact ⟨Nat.le_of_lt h.1, h.2⟩

/-- A node is entered through one child only. -/
theorem Place.EntersThrough.unique {p c d q : Place} (hc : p.EntersThrough c q)
    (hd : p.EntersThrough d q) : c = d :=
  eq_of_mem_placeAll hc.index hd.index hc.1 hd.1

theorem Visit.map_fst_path (v : Visit) : v.path.map (·.1) = v.ancestors :=
  List.map_fst_zip (by simp)

/-- Each step of the path goes from a node to one that has it among its children. -/
theorem mem_children_of_mem_path {root : Node} {v : Visit} (hv : v ∈ walk root)
    {e : Place × Place} (he : e ∈ v.path) : e.2 ∈ e.1.children := by
  obtain ⟨here, above⟩ := v
  induction above generalizing here with
  | nil => exact absurd he (List.not_mem_nil)
  | cons p above ih =>
    obtain ⟨hp, hchild⟩ := mem_walk_of_parent hv rfl
    have hpath : Visit.path ⟨here, p :: above⟩ = (p, here) :: Visit.path ⟨p, above⟩ := rfl
    rw [hpath] at he
    rcases List.mem_cons.1 he with rfl | he
    · exact hchild
    · exact ih p hp he

theorem entersThrough_of_mem_path {root : Node} {v : Visit} (hv : v ∈ walk root)
    {e : Place × Place} (he : e ∈ v.path) : e.1.EntersThrough e.2 v.toPlace := by
  refine ⟨mem_children_of_mem_path hv he, ?_⟩
  rcases List.mem_cons.1 (List.of_mem_zip he).2 with heq | hmem
  · exact Or.inl heq
  · exact Or.inr ((mem_ancestors_iff hv).1 hmem).2

/-- The path of a visited node: the nodes that enclose it, each with the child through which it is
entered. -/
theorem mem_path_iff {root : Node} {v : Visit} (hv : v ∈ walk root) {a c : Place} :
    (a, c) ∈ v.path ↔
      a ∈ places root ∧ a.Encloses v.toPlace ∧ a.EntersThrough c v.toPlace := by
  have hancestor : a ∈ v.ancestors ↔ ∃ d, (a, d) ∈ v.path := by
    rw [← Visit.map_fst_path]
    simp
  constructor
  · intro h
    obtain ⟨hmem, henc⟩ := (mem_ancestors_iff hv).1 (hancestor.2 ⟨c, h⟩)
    exact ⟨hmem, henc, entersThrough_of_mem_path hv h⟩
  · rintro ⟨hmem, henc, hc⟩
    obtain ⟨d, hd⟩ := hancestor.1 ((mem_ancestors_iff hv).2 ⟨hmem, henc⟩)
    rw [hc.unique (entersThrough_of_mem_path hv hd)]
    exact hd

theorem path_pairwise {root : Node} {v : Visit} (hv : v ∈ walk root) :
    v.path.Pairwise fun e d => d.1.Encloses e.1 := by
  rw [← List.pairwise_map (R := fun p q : Place => q.Encloses p), Visit.map_fst_path]
  exact ancestors_pairwise hv

/-! ## The function around a node -/

theorem IsInnermostFunction.unique {root : Node} {q F G : Place}
    (hF : IsInnermostFunction root q F) (hG : IsInnermostFunction root q G) : F = G := by
  rcases hG.innermost F hF.mem hF.isFunction hF.encloses with h | h
  · exact h
  · rcases hF.innermost G hG.mem hG.isFunction hG.encloses with h' | h'
    · exact h'.symm
    · exact absurd h h'.asymm

theorem isInnermostFunction_of_enclosingFunction {root : Node} {v : Visit} (hv : v ∈ walk root)
    {F : Place} (h : v.enclosingFunction? = some F) : IsInnermostFunction root v.toPlace F := by
  obtain ⟨hfun, inner, outer, hpath, hinner⟩ := List.find?_eq_some_iff_append.1 h
  have hmemF : F ∈ v.ancestors := by rw [hpath]; simp
  have hF := (mem_ancestors_iff hv).1 hmemF
  refine ⟨hF.1, hfun, hF.2, fun G hG hGfun hGenc => ?_⟩
  have hmem := (mem_ancestors_iff hv).2 ⟨hG, hGenc⟩
  rw [hpath] at hmem
  rcases List.mem_append.1 hmem with hmem | hmem
  · exact absurd hGfun (by simpa using hinner G hmem)
  · rcases List.mem_cons.1 hmem with rfl | hmem
    · exact Or.inl rfl
    · exact Or.inr ((mem_ancestors_iff (mem_walk_of_ancestor hv hpath)).1 hmem).2

/-- No function is found around a node if there is none. -/
theorem enclosingFunction_eq_none_iff {root : Node} {v : Visit} (hv : v ∈ walk root) :
    v.enclosingFunction? = none ↔
      ∀ F ∈ places root, F.node.isFunction = true → ¬F.Encloses v.toPlace := by
  rw [Visit.enclosingFunction?, List.find?_eq_none]
  constructor
  · exact fun h F hF hfun henc => h F ((mem_ancestors_iff hv).2 ⟨hF, henc⟩) hfun
  · intro h F hF
    obtain ⟨hmem, henc⟩ := (mem_ancestors_iff hv).1 hF
    exact fun hfun => h F hmem hfun henc

/-- The function found around a node is the innermost one. -/
theorem enclosingFunction_eq_some_iff {root : Node} {v : Visit} (hv : v ∈ walk root) {F : Place} :
    v.enclosingFunction? = some F ↔ IsInnermostFunction root v.toPlace F := by
  refine ⟨isInnermostFunction_of_enclosingFunction hv, fun hF => ?_⟩
  cases h : v.enclosingFunction? with
  | none =>
    exact absurd hF.encloses ((enclosingFunction_eq_none_iff hv).1 h F hF.mem hF.isFunction)
  | some G => rw [(isInnermostFunction_of_enclosingFunction hv h).unique hF]

end CallFlow.Tree
