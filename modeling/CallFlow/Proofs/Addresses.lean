import Mathlib.Data.List.Forall2
import CallFlow.Proofs.Turns
import CallFlow.Proofs.Walk

/-!
# Addresses

An address says how to go down from the root of a tree: it lists the positions of the children on
the way. The place that it leads to does not depend on any walk, so that addresses can say what a
walk should visit: every address of the tree, in lexicographic order (a parent before its children,
and what is below a child before what is below the next one).

* `mem_addresses_iff`, `pairwise_addresses` — the addresses of a tree are listed in this order, and
  they are those that lead to a place;
* `Reached.down` — what is reached from a child is reached from its parent, by an address with one
  position more;
* `walk_reaches_addresses` — the walk comes to the places of the addresses one by one, each time
  with the ancestors that the address passes through.
-/

namespace CallFlow.Tree

/-- The place to which an address leads. -/
def Place.at? (p : Place) : List ℕ → Option Place
  | [] => some p
  | k :: a => p.children[k]?.bind (·.at? a)

mutual

/-- The addresses of the nodes of a tree, in the order in which they are visited. -/
def Node.addresses : Node → List (List ℕ)
  | .mk _ cs => [] :: addressesAll 0 cs

/-- The addresses of the nodes of a list of siblings, if the first of them is child number `k`. -/
def Node.addressesAll (k : ℕ) : List Node → List (List ℕ)
  | [] => []
  | c :: cs => c.addresses.map (k :: ·) ++ addressesAll (k + 1) cs

end

/-! ## Order -/

theorem exists_of_mem_addressesAll {cs : List Node} {a : List ℕ} :
    ∀ {k : ℕ}, a ∈ Node.addressesAll k cs → ∃ j b, k ≤ j ∧ a = j :: b := by
  induction cs with
  | nil => intro k ha; simp [Node.addressesAll] at ha
  | cons c cs ih =>
    intro k ha
    rw [Node.addressesAll] at ha
    rcases List.mem_append.1 ha with ha | ha
    · obtain ⟨b, -, rfl⟩ := List.mem_map.1 ha
      exact ⟨k, b, Nat.le_refl k, rfl⟩
    · obtain ⟨j, b, hj, rfl⟩ := ih ha
      exact ⟨j, b, by omega, rfl⟩

/-- The addresses of a tree are listed in lexicographic order, and none twice. -/
theorem pairwise_addresses :
    (∀ n : Node, n.addresses.Pairwise (List.Lex (· < ·))) ∧
    ∀ (cs : List Node) (k : ℕ), (Node.addressesAll k cs).Pairwise (List.Lex (· < ·)) := by
  refine Node.induction ?node ?nil ?cons
  case node =>
    intro l cs ih
    rw [Node.addresses]
    refine List.Pairwise.cons ?_ (ih 0)
    intro a ha
    obtain ⟨j, b, -, rfl⟩ := exists_of_mem_addressesAll ha
    exact .nil
  case nil =>
    intro k
    rw [Node.addressesAll]
    exact .nil
  case cons =>
    intro c cs ihc ihcs k
    rw [Node.addressesAll, List.pairwise_append, List.pairwise_map]
    refine ⟨ihc.imp List.Lex.cons, ihcs (k + 1), ?_⟩
    -- below a child, and below one of the children after it
    intro a ha b hb
    obtain ⟨a, -, rfl⟩ := List.mem_map.1 ha
    obtain ⟨j, b, hj, rfl⟩ := exists_of_mem_addressesAll hb
    exact .rel (by omega)

/-! ## Places -/

/-- The addresses of a tree are those that lead to a place. -/
theorem mem_addresses_iff :
    (∀ (n : Node) (next : ℕ) (a : List ℕ),
      a ∈ n.addresses ↔ (Place.at? ⟨next, n⟩ a).isSome = true) ∧
    ∀ (cs : List Node) (next k j : ℕ) (a : List ℕ),
      (k + j) :: a ∈ Node.addressesAll k cs ↔
        ((placeAll next cs)[j]?.bind (·.at? a)).isSome = true := by
  refine Node.induction ?node ?nil ?cons
  case node =>
    intro l cs ih next a
    rw [Node.addresses]
    cases a with
    | nil => simp [Place.at?]
    | cons j a =>
      have hall := ih (next + 1) 0 j a
      rw [Nat.zero_add] at hall
      simp only [List.mem_cons, reduceCtorEq, false_or, hall]
      rfl
  case nil =>
    intro next k j a
    simp [Node.addressesAll, placeAll]
  case cons =>
    intro c cs ihc ihcs next k j a
    rw [Node.addressesAll, placeAll, List.mem_append]
    cases j with
    | zero =>
      have hlater : k :: a ∉ Node.addressesAll (k + 1) cs := by
        intro ha
        obtain ⟨j, b, hj, heq⟩ := exists_of_mem_addressesAll ha
        obtain ⟨rfl, -⟩ := List.cons.inj heq
        omega
      simp [hlater, ihc next]
    | succ j =>
      have hfirst : (k + (j + 1)) :: a ∉ c.addresses.map (k :: ·) := by
        intro ha
        obtain ⟨b, -, heq⟩ := List.mem_map.1 ha
        obtain ⟨hk, -⟩ := List.cons.inj heq
        omega
      have hall := ihcs (next + c.size) (k + 1) j a
      rw [show k + 1 + j = k + (j + 1) by omega] at hall
      simp [hfirst, hall]

/-! ## Visits -/

/-- The visit goes to the place to which the address leads from `p`, and its ancestors are the
places that the address passes through, the innermost first, and then those of `p`. -/
structure Reached (p : Place) (above : List Place) (a : List ℕ) (v : Visit) : Prop where
  place : p.at? a = some v.toPlace
  ancestors : ∃ between, v.ancestors = between ++ above ∧
    between.reverse.map some = (List.range a.length).map fun k => p.at? (a.take k)

/-- What is reached from a child is reached from its parent. -/
theorem Reached.down {p c : Place} {k : ℕ} (hc : p.children[k]? = some c) {above : List Place}
    {a : List ℕ} {v : Visit} (h : Reached c (p :: above) a v) : Reached p above (k :: a) v := by
  have hat : ∀ b, p.at? (k :: b) = c.at? b := by
    intro b
    rw [Place.at?, hc, Option.bind_some]
  constructor
  · rw [hat]
    exact h.place
  · obtain ⟨between, hpath, hbetween⟩ := h.ancestors
    refine ⟨between ++ [p], by simp [hpath], ?_⟩
    simp only [List.reverse_append, List.reverse_singleton, List.singleton_append, List.map_cons,
      hbetween, List.length_cons, List.range_succ_eq_map, List.map_map]
    refine congrArg₂ List.cons rfl (List.map_congr_left fun j _ => ?_)
    rw [Function.comp_apply, List.take_succ_cons, hat]

/-- The visits of a subtree come to its addresses one by one. -/
theorem reached_preorder :
    (∀ (n : Node) (above : List Place) (next : ℕ),
      List.Forall₂ (Reached ⟨next, n⟩ above) n.addresses (preorder above next n)) ∧
    ∀ (cs : List Node) (p : Place) (above before : List Place) (next : ℕ),
      p.children = before ++ placeAll next cs →
        List.Forall₂ (Reached p above) (Node.addressesAll before.length cs)
          (preorderAll (p :: above) next cs) := by
  refine Node.induction ?node ?nil ?cons
  case node =>
    intro l cs ih above next
    rw [Node.addresses, preorder]
    refine .cons ⟨rfl, [], rfl, rfl⟩ ?_
    exact ih ⟨next, .mk l cs⟩ above [] (next + 1) rfl
  case nil =>
    intro p above before next _
    rw [Node.addressesAll, preorderAll]
    exact .nil
  case cons =>
    intro c cs ihc ihcs p above before next hchildren
    rw [placeAll] at hchildren
    have hc : p.children[before.length]? = some ⟨next, c⟩ := by
      simp [hchildren]
    have hlater := ihcs p above (before ++ [⟨next, c⟩]) (next + c.size) (by simp [hchildren])
    rw [List.length_append, List.length_singleton] at hlater
    rw [Node.addressesAll, preorderAll]
    refine List.rel_append ?_ hlater
    rw [List.forall₂_map_left_iff]
    exact (ihc (p :: above) next).imp fun _ _ h => h.down hc

/-- Items that stand along a way, the last of them first, paired with the one that comes next on the
way. -/
theorem reverse_zip_cons {α : Type} (f : ℕ → Option α) :
    ∀ (n : ℕ) {x : α} {xs : List α}, xs.reverse.map some = (List.range n).map f → f n = some x →
      (xs.zip (x :: xs)).reverse.map (fun e => (some e.1, some e.2)) =
        (List.range n).map fun k => (f k, f (k + 1)) := by
  intro n
  induction n with
  | zero =>
    intro x xs hxs _
    obtain rfl : xs = [] := by simpa using hxs
    rfl
  | succ n ih =>
    intro x xs hxs hx
    cases xs with
    | nil => simp [List.range_succ] at hxs
    | cons y ys =>
      simp only [List.reverse_cons, List.map_append, List.map_cons, List.map_nil, List.range_succ]
        at hxs ⊢
      obtain ⟨hys, hy⟩ := List.append_inj' hxs rfl
      obtain hy : f n = some y := (List.cons.inj hy).1.symm
      simp [ih hys hy, hx, hy]

/-- The visit goes to the place of an address in a tree. Its ancestors are the places on the way
from the root, and its path pairs each of them with the next place on the way. -/
structure VisitsAddress (root : Node) (a : List ℕ) (v : Visit) : Prop where
  place : Place.at? ⟨0, root⟩ a = some v.toPlace
  ancestors : v.ancestors.reverse.map some =
    (List.range a.length).map fun k => Place.at? ⟨0, root⟩ (a.take k)
  path : v.path.reverse.map (fun e => (some e.1, some e.2)) =
    (List.range a.length).map fun k =>
      (Place.at? ⟨0, root⟩ (a.take k), Place.at? ⟨0, root⟩ (a.take (k + 1)))

theorem Reached.visitsAddress {root : Node} {a : List ℕ} {v : Visit}
    (h : Reached ⟨0, root⟩ [] a v) : VisitsAddress root a v := by
  have hancestors : v.ancestors.reverse.map some =
      (List.range a.length).map fun k => Place.at? ⟨0, root⟩ (a.take k) := by
    obtain ⟨between, hpath, hbetween⟩ := h.ancestors
    rw [hpath, List.append_nil, hbetween]
  refine ⟨h.place, hancestors, reverse_zip_cons _ a.length hancestors ?_⟩
  rw [List.take_length]
  exact h.place

/-- **The walk is in pre-order, and knows the way to every node.** The turns of the walk come to an
end. It visits the addresses of the tree one by one, and these are all addresses that lead to a
place, in lexicographic order; so every node is visited once, before those below it and before those
to its right. At each visit the list of ancestors is the way from the root to the parent, and each
ancestor is paired with its child on the way. Indices number the visits without gap. -/
theorem walk_reaches_addresses (root : Node) :
    (∀ visits, Yields WalkState.turn? ⟨[⟨root, 0⟩], [], 0⟩ visits ↔ visits = walk root) ∧
    root.addresses.Pairwise (List.Lex (· < ·)) ∧
    (∀ a, a ∈ root.addresses ↔ (Place.at? ⟨0, root⟩ a).isSome = true) ∧
    List.Forall₂ (VisitsAddress root) root.addresses (walk root) ∧
    (walk root).map (·.index) = List.range root.size := by
  refine ⟨fun visits => yields_walk_iff, pairwise_addresses.1 root, mem_addresses_iff.1 root 0,
    ?_, ?_⟩
  · rw [walk_eq_preorder]
    exact (reached_preorder.1 root [] 0).imp fun _ _ h => h.visitsAddress
  · rw [walk_eq_preorder, index_preorder.1, List.range_eq_range']

end CallFlow.Tree
