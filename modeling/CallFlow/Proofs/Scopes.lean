import CallFlow.Proofs.CallerNames
import CallFlow.Proofs.Turns

/-!
# Scopes

The scoped walk turns back at functions. So it comes to just those nodes of the full walk that are
no functions and lie below none (`walkScope_eq_filter`), in the same order. The scope of a function
is what the scoped walk finds in its body; a node is in the scope of the innermost function around
it, and therefore no two functions of a tree share one (`pairwise_disjoint_ownScope`).
-/

namespace CallFlow.Tree

/-- Is the visited node no function, and below none? -/
def Visit.inNoFunction (v : Visit) : Bool :=
  (v.toPlace :: v.ancestors).all (!·.node.isFunction)

theorem Visit.inNoFunction_iff {v : Visit} :
    v.inNoFunction = true ↔
      v.node.isFunction = false ∧ ∀ p ∈ v.ancestors, p.node.isFunction = false := by
  simp [inNoFunction]

/-- In a tree with no functions above it, the visits that the scoped walk comes to are those in no
function. The two walks may count from different indices. -/
theorem scope_eq_filter (shift : ℕ) :
    (∀ (n : Node) (above : List Place) (next : ℕ), (∀ p ∈ above, p.node.isFunction = false) →
      scope (shift + next) n =
        ((preorder above next n).filter (·.inNoFunction)).map fun v =>
          ⟨shift + v.index, v.node⟩) ∧
    ∀ (cs : List Node) (above : List Place) (next : ℕ), (∀ p ∈ above, p.node.isFunction = false) →
      scopeAll (shift + next) cs =
        ((preorderAll above next cs).filter (·.inNoFunction)).map fun v =>
          ⟨shift + v.index, v.node⟩ := by
  refine Node.induction ?node ?nil ?cons
  case node =>
    intro l cs ih above next habove
    rw [scope, preorder]
    by_cases hfun : (Node.mk l cs).isFunction = true
    · have hhere : Visit.inNoFunction ⟨⟨next, .mk l cs⟩, above⟩ = false := by
        simp [Visit.inNoFunction, hfun]
      -- the function is an ancestor of everything below it
      have hbelow : ∀ v ∈ preorderAll (⟨next, .mk l cs⟩ :: above) (next + 1) cs,
          ¬v.inNoFunction = true := by
        intro v hv hno
        obtain ⟨-, -, between, hpath, -⟩ := path_of_mem_preorder.2 _ _ _ v hv
        have hclear := (Visit.inNoFunction_iff.1 hno).2 ⟨next, .mk l cs⟩ (by simp [hpath])
        simp [hfun] at hclear
      rw [if_pos hfun, List.filter_cons_of_neg (by simp [hhere]), List.filter_eq_nil_iff.2 hbelow,
        List.map_nil]
    · have hclear : ∀ p ∈ (⟨next, .mk l cs⟩ :: above : List Place), p.node.isFunction = false := by
        intro p hp
        rcases List.mem_cons.1 hp with rfl | hp
        · simpa using hfun
        · exact habove p hp
      have hhere : Visit.inNoFunction ⟨⟨next, .mk l cs⟩, above⟩ = true :=
        Visit.inNoFunction_iff.2 ⟨by simpa using hfun, habove⟩
      rw [if_neg hfun, List.filter_cons_of_pos hhere, List.map_cons]
      exact congrArg (_ :: ·) (ih _ (next + 1) hclear)
  case nil =>
    intro above next _
    rw [scopeAll, preorderAll]
    rfl
  case cons =>
    intro c cs ihc ihcs above next habove
    rw [scopeAll, preorderAll, List.filter_append, List.map_append, ihc above next habove,
      Nat.add_assoc, ihcs above (next + c.size) habove]

theorem walkScope_eq_filter (p : Place) :
    walkScope p = ((walk p.node).filter (·.inNoFunction)).map fun v =>
      ⟨p.index + v.index, v.node⟩ := by
  rw [walkScope_eq_scope, walk_eq_preorder]
  exact (scope_eq_filter p.index).1 p.node [] 0 (by simp)

/-- No two functions of a tree have a node of their scopes in common. -/
theorem pairwise_disjoint_ownScope (root : Node) :
    ((walk root).filter (·.node.isFunction)).Pairwise fun G H =>
      G.ownScope.Disjoint H.ownScope := by
  refine ((nodup_walk root).filter _).pairwise_of_forall_ne ?_
  intro G hG H hH hne p hpG hpH
  obtain ⟨hG, hfunG⟩ := List.mem_filter.1 hG
  obtain ⟨hH, hfunH⟩ := List.mem_filter.1 hH
  exact hne (eq_of_mem_ownScope hH hfunH hG hfunG hpH hpG)

/-- **The scoped walk is the full walk without nested functions.** The turns of the scoped walk come
to an end, and it hands out, in the order of the full walk, those of its nodes that are no functions
and have none among their ancestors. Hence no two functions of a tree have a node of their scopes in
common, such as the function at its root and those nested in it at any depth. -/
theorem walkScope_leaves_out_functions :
    (∀ (p : Place) (nodes : List Place), Yields scopeTurn? [p] nodes ↔ nodes = walkScope p) ∧
    (∀ p : Place, walkScope p = ((walk p.node).filter fun v =>
      (v.toPlace :: v.ancestors).all (!·.node.isFunction)).map fun v =>
        ⟨p.index + v.index, v.node⟩) ∧
    ∀ root : Node, ((walk root).filter (·.node.isFunction)).Pairwise fun G H =>
      G.ownScope.Disjoint H.ownScope :=
  ⟨fun _ _ => yields_walkScope_iff, walkScope_eq_filter, pairwise_disjoint_ownScope⟩

end CallFlow.Tree
