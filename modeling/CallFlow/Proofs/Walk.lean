import Mathlib.Data.List.Nodup
import CallFlow.Tree.Walk

/-!
# The work lists visit trees in pre-order

The two walks of `CallFlow.Tree.Walk` run on work lists. Here they are shown to be the recursions on
the tree that stand beside them, and the recursions are described:

* `walk_eq_preorder` — the work list with its shared list of ancestors, cut back at every step,
  gives the visits that the recursion gives, each with the path that really leads to it;
* `walkScope_eq_scope` — the same for the walk that leaves out nested functions;
* `index_preorder` — the indices count up without gap, so that an index names one node;
* `path_of_mem_preorder` — the ancestors of a visit are those of the subtree's root, with nodes of
  the subtree below them;
* `filter_liesIn_preorder` — the visits that lie below a node are the visits of its subtree.
-/

namespace CallFlow.Tree

/-- Induction on a tree together with the lists of its subtrees. -/
theorem Node.induction {P : Node → Prop} {Q : List Node → Prop}
    (node : ∀ l cs, Q cs → P (.mk l cs)) (nil : Q []) (cons : ∀ c cs, P c → Q cs → Q (c :: cs)) :
    (∀ n, P n) ∧ ∀ cs, Q cs :=
  ⟨fun n => Node.rec node nil cons n, fun cs => Node.rec_1 node nil cons cs⟩

/-! ## The walk with ancestors -/

theorem cutBack_append {depth : Nat} {above : List Place} (h : depth ≤ above.length)
    (left : List Place) : cutBack depth (left ++ above) = cutBack depth above := by
  have hl : (left ++ above).length - depth = left.length + (above.length - depth) := by
    rw [List.length_append]; omega
  rw [cutBack, cutBack, hl, List.drop_append]
  simp

theorem cutBack_length (above : List Place) : cutBack above.length above = above := by
  simp [cutBack]

/-- What a finished subtree has left on top of the path is cut off at the next step. -/
theorem walkFrom_append {work : List Pending} {above : List Place}
    (h : ∀ p ∈ work, p.depth ≤ above.length) (left : List Place) (next : Nat) :
    walkFrom work (left ++ above) next = walkFrom work above next := by
  cases work with
  | nil => rw [walkFrom, walkFrom]
  | cons p rest => rw [walkFrom, walkFrom, cutBack_append (h p (List.mem_cons_self ..))]

/-- The children of the node in front are visited as a recursion would, and then the rest. -/
theorem walkFrom_eq_preorder :
    (∀ (n : Node) (above : List Place) (rest : List Pending) (next : Nat),
      (∀ p ∈ rest, p.depth ≤ above.length) →
        walkFrom (⟨n, above.length⟩ :: rest) above next =
          preorder above next n ++ walkFrom rest above (next + n.size)) ∧
    ∀ (cs : List Node) (above : List Place) (rest : List Pending) (next : Nat),
      (∀ p ∈ rest, p.depth ≤ above.length) →
        walkFrom (cs.map (⟨·, above.length⟩) ++ rest) above next =
          preorderAll above next cs ++ walkFrom rest above (next + Node.sizeAll cs) := by
  refine Node.induction ?node ?nil ?cons
  case node =>
    intro l cs ih above rest next h
    have hdeep : ∀ p ∈ rest, p.depth ≤ (⟨next, .mk l cs⟩ :: above : List Place).length :=
      fun p hp => Nat.le_succ_of_le (h p hp)
    have hbelow : Pending.below ⟨.mk l cs, above.length⟩ =
        cs.map (⟨·, (⟨next, .mk l cs⟩ :: above : List Place).length⟩) := rfl
    rw [walkFrom, cutBack_length, preorder, hbelow, ih _ _ _ hdeep, Node.size, ← Nat.add_assoc,
      List.cons_append]
    -- the node itself stays on the path until the next step cuts it off
    rw [show (⟨next, .mk l cs⟩ :: above : List Place) = [⟨next, .mk l cs⟩] ++ above from rfl,
      walkFrom_append h]
  case nil =>
    intro above rest next _
    rw [List.map_nil, preorderAll, Node.sizeAll]
    rfl
  case cons =>
    intro c cs ihc ihcs above rest next h
    have hwork : ∀ p ∈ cs.map (⟨·, above.length⟩) ++ rest, p.depth ≤ above.length := by
      intro p hp
      rcases List.mem_append.1 hp with hp | hp
      · obtain ⟨d, -, rfl⟩ := List.mem_map.1 hp
        exact Nat.le_refl _
      · exact h p hp
    rw [List.map_cons, List.cons_append, ihc _ _ _ hwork, ihcs _ _ _ h, preorderAll, Node.sizeAll,
      List.append_assoc, Nat.add_assoc]

/-- The walk on a work list is the recursion on the tree. -/
theorem walk_eq_preorder (root : Node) : walk root = preorder [] 0 root := by
  have h := walkFrom_eq_preorder.1 root [] [] 0 (by simp)
  rw [walkFrom, List.append_nil] at h
  exact h

/-! ## The walk that leaves out nested functions -/

theorem walkScopeFrom_eq_scope :
    (∀ (n : Node) (rest : List Place) (next : Nat),
      walkScopeFrom (⟨next, n⟩ :: rest) = scope next n ++ walkScopeFrom rest) ∧
    ∀ (cs : List Node) (rest : List Place) (next : Nat),
      walkScopeFrom (placeAll next cs ++ rest) = scopeAll next cs ++ walkScopeFrom rest := by
  refine Node.induction ?node ?nil ?cons
  case node =>
    intro l cs ih rest next
    rw [walkScopeFrom, scope]
    by_cases hf : (Node.mk l cs).isFunction = true
    · rw [if_pos hf, if_pos hf, List.nil_append]
    · rw [if_neg hf, if_neg hf, Place.children]
      exact congrArg (_ :: ·) (ih rest (next + 1))
  case nil =>
    intro rest next
    rw [placeAll, scopeAll]
    rfl
  case cons =>
    intro c cs ihc ihcs rest next
    rw [placeAll, scopeAll, List.cons_append, ihc, ihcs, List.append_assoc]

/-- The scoped walk on a work list is the recursion on the tree. -/
theorem walkScope_eq_scope (root : Place) : walkScope root = scope root.index root.node := by
  have h := walkScopeFrom_eq_scope.1 root.node [] root.index
  rw [walkScopeFrom, List.append_nil] at h
  exact h

/-- Which nodes a scope holds does not depend on where the counting of indices starts. -/
theorem map_node_scope :
    (∀ (n : Node) (i j : Nat), (scope i n).map (·.node) = (scope j n).map (·.node)) ∧
    ∀ (cs : List Node) (i j : Nat),
      (scopeAll i cs).map (·.node) = (scopeAll j cs).map (·.node) := by
  refine Node.induction ?node ?nil ?cons
  case node =>
    intro l cs ih i j
    rw [scope, scope]
    by_cases hf : (Node.mk l cs).isFunction = true
    · rw [if_pos hf, if_pos hf]
    · rw [if_neg hf, if_neg hf, List.map_cons, List.map_cons, ih (i + 1) (j + 1)]
  case nil =>
    intro i j
    rw [scopeAll, scopeAll]
  case cons =>
    intro c cs ihc ihcs i j
    rw [scopeAll, scopeAll, List.map_append, List.map_append, ihc i j,
      ihcs (i + c.size) (j + c.size)]

/-! ## Indices and paths -/

/-- The indices of a subtree's visits count up from that of its root. -/
theorem index_preorder :
    (∀ (n : Node) (above : List Place) (next : Nat),
      (preorder above next n).map (·.index) = List.range' next n.size) ∧
    ∀ (cs : List Node) (above : List Place) (next : Nat),
      (preorderAll above next cs).map (·.index) = List.range' next (Node.sizeAll cs) := by
  refine Node.induction ?node ?nil ?cons
  case node =>
    intro l cs ih above next
    rw [preorder, List.map_cons, ih, Node.size, Nat.add_comm 1, List.range'_succ]
  case nil =>
    intro above next
    rw [preorderAll, Node.sizeAll]
    rfl
  case cons =>
    intro c cs ihc ihcs above next
    rw [preorderAll, List.map_append, ihc, ihcs, Node.sizeAll, ← List.range'_append_1]

/-- An index names one visit. -/
theorem eq_of_index_eq {root : Node} {v w : Visit} (hv : v ∈ walk root) (hw : w ∈ walk root)
    (h : v.index = w.index) : v = w := by
  have hnodup : ((walk root).map (·.index)).Nodup := by
    rw [walk_eq_preorder, index_preorder.1]
    exact List.nodup_range'
  exact List.inj_on_of_nodup_map hnodup hv hw h

/-- The path to a visit of a subtree: the path to the subtree and nodes of the subtree that come
before the visited one. -/
theorem path_of_mem_preorder :
    (∀ (n : Node) (above : List Place) (next : Nat), ∀ v ∈ preorder above next n,
      next ≤ v.index ∧ v.index < next + n.size ∧ ∃ between, v.ancestors = between ++ above ∧
        ∀ p ∈ between, next ≤ p.index ∧ p.index < v.index) ∧
    ∀ (cs : List Node) (above : List Place) (next : Nat), ∀ v ∈ preorderAll above next cs,
      next ≤ v.index ∧ v.index < next + Node.sizeAll cs ∧
        ∃ between, v.ancestors = between ++ above ∧
          ∀ p ∈ between, next ≤ p.index ∧ p.index < v.index := by
  refine Node.induction ?node ?nil ?cons
  case node =>
    intro l cs ih above next v hv
    rw [preorder] at hv
    rw [Node.size]
    rcases List.mem_cons.1 hv with rfl | hv
    · exact ⟨Nat.le_refl _, by simp only; omega, [], rfl, by simp⟩
    · obtain ⟨hlo, hhi, between, hpath, hbetween⟩ := ih _ _ v hv
      refine ⟨by omega, by omega, between ++ [⟨next, .mk l cs⟩], by rw [hpath]; simp, ?_⟩
      intro p hp
      rcases List.mem_append.1 hp with hp | hp
      · exact ⟨by have := hbetween p hp; omega, (hbetween p hp).2⟩
      · rw [List.mem_singleton.1 hp]
        exact ⟨Nat.le_refl _, hlo⟩
  case nil =>
    intro above next v hv
    rw [preorderAll] at hv
    exact absurd hv (List.not_mem_nil)
  case cons =>
    intro c cs ihc ihcs above next v hv
    rw [preorderAll] at hv
    rw [Node.sizeAll]
    rcases List.mem_append.1 hv with hv | hv
    · obtain ⟨hlo, hhi, hpath⟩ := ihc _ _ v hv
      exact ⟨hlo, by omega, hpath⟩
    · obtain ⟨hlo, hhi, between, hpath, hbetween⟩ := ihcs _ _ v hv
      refine ⟨by omega, by omega, between, hpath, ?_⟩
      intro p hp
      have := hbetween p hp
      exact ⟨by omega, this.2⟩

/-! ## Subtrees -/

/-- Is the visited node the given one, or does it lie below it? -/
def Visit.liesIn (v : Visit) (p : Place) : Bool :=
  (v.toPlace :: v.ancestors).any (·.index == p.index)

theorem Visit.liesIn_iff {v : Visit} {p : Place} :
    v.liesIn p = true ↔ v.index = p.index ∨ ∃ a ∈ v.ancestors, a.index = p.index := by
  rw [Visit.liesIn, List.any_cons, Bool.or_eq_true, List.any_eq_true]
  simp

/-- A visit of one subtree does not lie below an index that belongs neither to the subtree nor to
the path that leads to it. -/
theorem liesIn_eq_false {above : List Place} {next size : Nat} {v : Visit} {p : Place}
    (hv : next ≤ v.index ∧ v.index < next + size ∧ ∃ between, v.ancestors = between ++ above ∧
      ∀ q ∈ between, next ≤ q.index ∧ q.index < v.index)
    (habove : ∀ q ∈ above, q.index ≠ p.index) (hp : p.index < next ∨ next + size ≤ p.index) :
    v.liesIn p = false := by
  obtain ⟨hlo, hhi, between, hpath, hbetween⟩ := hv
  rw [← Bool.not_eq_true, Visit.liesIn_iff, hpath]
  rintro (h | ⟨a, ha, h⟩)
  · omega
  · rcases List.mem_append.1 ha with ha | ha
    · have := hbetween a ha
      omega
    · exact habove a ha h

/-- The visits that lie below a node of a tree are the visits of its subtree. -/
theorem filter_liesIn_preorder :
    (∀ (n : Node) (above : List Place) (next : Nat), (∀ p ∈ above, p.index < next) →
      ∀ w ∈ preorder above next n,
        (preorder above next n).filter (·.liesIn w.toPlace) =
          preorder w.ancestors w.index w.node) ∧
    ∀ (cs : List Node) (above : List Place) (next : Nat), (∀ p ∈ above, p.index < next) →
      ∀ w ∈ preorderAll above next cs,
        (preorderAll above next cs).filter (·.liesIn w.toPlace) =
          preorder w.ancestors w.index w.node := by
  refine Node.induction ?node ?nil ?cons
  case node =>
    intro l cs ih above next habove w hw
    have hall := path_of_mem_preorder.2 cs (⟨next, .mk l cs⟩ :: above) (next + 1)
    rw [preorder] at hw ⊢
    rcases List.mem_cons.1 hw with rfl | hw
    · -- everything lies below the root
      rw [List.filter_eq_self.2, preorder]
      intro v hv
      rw [Visit.liesIn_iff]
      rcases List.mem_cons.1 hv with rfl | hv
      · exact Or.inl rfl
      · obtain ⟨-, -, between, hpath, -⟩ := hall v hv
        exact Or.inr ⟨⟨next, .mk l cs⟩, by rw [hpath]; simp, rfl⟩
    · have hlo := (hall w hw).1
      have hroot : Visit.liesIn ⟨⟨next, .mk l cs⟩, above⟩ w.toPlace = false := by
        rw [← Bool.not_eq_true, Visit.liesIn_iff]
        rintro (h | ⟨a, ha, h⟩)
        · simp only at h
          omega
        · have := habove a ha
          omega
      rw [List.filter_cons_of_neg (by rw [hroot]; simp)]
      refine ih _ _ ?_ w hw
      intro p hp
      rcases List.mem_cons.1 hp with rfl | hp
      · exact Nat.lt_succ_self _
      · exact Nat.lt_succ_of_lt (habove p hp)
  case nil =>
    intro above next _ w hw
    rw [preorderAll] at hw
    exact absurd hw (List.not_mem_nil)
  case cons =>
    intro c cs ihc ihcs above next habove w hw
    have hfirst := path_of_mem_preorder.1 c above next
    have hlater := path_of_mem_preorder.2 cs above (next + c.size)
    rw [preorderAll] at hw ⊢
    rw [List.filter_append]
    rcases List.mem_append.1 hw with hw | hw
    · have hrange := hfirst w hw
      have hnone : (preorderAll above (next + c.size) cs).filter (·.liesIn w.toPlace) = [] := by
        rw [List.filter_eq_nil_iff]
        intro v hv
        rw [liesIn_eq_false (hlater v hv) (fun q hq => by have := habove q hq; omega)
          (Or.inl hrange.2.1)]
        simp
      rw [hnone, List.append_nil, ihc above next habove w hw]
    · have hrange := hlater w hw
      have hnone : (preorder above next c).filter (·.liesIn w.toPlace) = [] := by
        rw [List.filter_eq_nil_iff]
        intro v hv
        rw [liesIn_eq_false (hfirst v hv) (fun q hq => by have := habove q hq; omega)
          (Or.inr hrange.1)]
        simp
      rw [hnone, List.nil_append]
      exact ihcs above _ (fun p hp => by have := habove p hp; omega) w hw

/-- The visits that lie below a node of the walk are the visits of its subtree. -/
theorem filter_liesIn_walk {root : Node} {w : Visit} (hw : w ∈ walk root) :
    (walk root).filter (·.liesIn w.toPlace) = preorder w.ancestors w.index w.node := by
  rw [walk_eq_preorder] at hw ⊢
  exact filter_liesIn_preorder.1 root [] 0 (by simp) w hw

theorem mem_preorder_root (above : List Place) (next : Nat) (n : Node) :
    ⟨⟨next, n⟩, above⟩ ∈ preorder above next n := by
  cases n with
  | mk l cs => rw [preorder]; exact List.mem_cons_self ..

theorem mem_preorderAll_of_mem_placeAll {above : List Place} {p : Place} {cs : List Node} :
    ∀ {next : Nat}, p ∈ placeAll next cs → ⟨p, above⟩ ∈ preorderAll above next cs := by
  induction cs with
  | nil => intro next hp; exact absurd hp (List.not_mem_nil)
  | cons c cs ih =>
    intro next hp
    rw [placeAll] at hp
    rw [preorderAll]
    rcases List.mem_cons.1 hp with rfl | hp
    · exact List.mem_append_left _ (mem_preorder_root above next c)
    · exact List.mem_append_right _ (ih hp)

/-- A child of a visited node is visited, by the path through that node. -/
theorem mem_walk_of_child {root : Node} {w : Visit} (hw : w ∈ walk root) {p : Place}
    (hp : p ∈ w.toPlace.children) : ⟨p, w.toPlace :: w.ancestors⟩ ∈ walk root := by
  have hsub : (⟨p, w.toPlace :: w.ancestors⟩ : Visit) ∈ preorder w.ancestors w.index w.node := by
    obtain ⟨⟨i, n⟩, above⟩ := w
    cases n with
    | mk l cs =>
      rw [preorder]
      exact List.mem_cons_of_mem _ (mem_preorderAll_of_mem_placeAll hp)
  rw [← filter_liesIn_walk hw] at hsub
  exact List.mem_of_mem_filter hsub

end CallFlow.Tree
