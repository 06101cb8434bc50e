import CallFlow.Tree.Node

/-!
# Walking a tree

The walk runs on a work list of pending nodes with their depths and one list of ancestors that is
cut back to the right depth at every step, so its own memory does not grow with the recursion of the
tree. `preorder` is the same order by recursion on the tree.

A node's *index* is its number in this order, from 0 at the root, and serves as its identity.
-/

namespace CallFlow.Tree

/-- A node together with its index. -/
structure Place where
  /-- Number of the node in pre-order. -/
  index : Nat
  node : Node
  deriving Repr, Inhabited

/-- One step of a walk: the node reached and the path that leads to it. -/
structure Visit extends Place where
  /-- The ancestors, the parent first and the root last. -/
  ancestors : List Place
  deriving Repr, Inhabited

namespace Visit

/-- Number of ancestors. -/
def depth (v : Visit) : Nat := v.ancestors.length

/-- The direct parent. -/
def parent? (v : Visit) : Option Place := v.ancestors.head?

/-- The innermost ancestor that defines a function. -/
def enclosingFunction? (v : Visit) : Option Place :=
  v.ancestors.find? (·.node.isFunction)

/-- The ancestors, innermost first, each with its child on the path to the visited node. -/
def path (v : Visit) : List (Place × Place) :=
  v.ancestors.zip (v.toPlace :: v.ancestors)

end Visit

/-- A node that waits to be visited, with its depth. -/
structure Pending where
  node : Node
  depth : Nat
  deriving Repr, Inhabited

namespace Pending

/-- Number of nodes that wait, their descendants included. -/
def total (work : List Pending) : Nat :=
  Node.sizeAll (work.map (·.node))

/-- The children of a node, waiting one level deeper. -/
def below (p : Pending) : List Pending :=
  p.node.children.map (⟨·, p.depth + 1⟩)

theorem total_below_append (p : Pending) (work : List Pending) :
    total (p.below ++ work) < total (p :: work) := by
  have h : List.map (fun q : Pending => q.node) p.below = p.node.children := by
    simp [below, Function.comp_def]
  simp only [total, List.map_append, List.map_cons, Node.sizeAll, Node.sizeAll_append, h,
    Node.size_eq p.node]
  omega

end Pending

/-- Keeps the outermost `depth` ancestors. The list has the innermost first. -/
def cutBack (depth : Nat) (ancestors : List Place) : List Place :=
  ancestors.drop (ancestors.length - depth)

/-- Visits the pending nodes in turn, each before its children. `ancestors` is the path left behind
by the last node visited, and `next` the index to be given next. -/
def walkFrom (work : List Pending) (ancestors : List Place) (next : Nat) : List Visit :=
  match work with
  | [] => []
  | p :: rest =>
    let above := cutBack p.depth ancestors
    ⟨⟨next, p.node⟩, above⟩ :: walkFrom (p.below ++ rest) (⟨next, p.node⟩ :: above) (next + 1)
termination_by Pending.total work
decreasing_by exact Pending.total_below_append p rest

/-- Every node of a tree in pre-order, with its path. -/
def walk (root : Node) : List Visit :=
  walkFrom [⟨root, 0⟩] [] 0

/-- Siblings with their indices, when `next` is the index of the first. -/
def placeAll (next : Nat) : List Node → List Place
  | [] => []
  | c :: cs => ⟨next, c⟩ :: placeAll (next + c.size) cs

/-- The children of a node with their indices. -/
def Place.children (p : Place) : List Place :=
  placeAll (p.index + 1) p.node.children

theorem map_node_placeAll (next : Nat) (cs : List Node) :
    (placeAll next cs).map (·.node) = cs := by
  induction cs generalizing next with
  | nil => rfl
  | cons c cs ih => simp [placeAll, ih]

/-- Visits the pending nodes in turn, but neither a function definition nor anything below one. -/
def walkScopeFrom (work : List Place) : List Place :=
  match work with
  | [] => []
  | p :: rest =>
    if p.node.isFunction then walkScopeFrom rest
    else p :: walkScopeFrom (p.children ++ rest)
termination_by Node.sizeAll (work.map (·.node))
decreasing_by
  · simp only [List.map_cons, Node.sizeAll, Node.size_eq p.node]; omega
  · simp only [List.map_cons, List.map_append, Node.sizeAll, Node.sizeAll_append, Place.children,
      map_node_placeAll, Node.size_eq p.node]
    omega

/-- The nodes below and including `root`, in pre-order, that lie in no function definition. Nothing
if `root` is one itself. -/
def walkScope (root : Place) : List Place :=
  walkScopeFrom [root]

/-! ## The same orders by recursion on the tree -/

mutual

/-- The visits of the tree `n`, reached along `above`, when `next` is the first free index. -/
def preorder (above : List Place) (next : Nat) : Node → List Visit
  | .mk l cs =>
    let here : Place := ⟨next, .mk l cs⟩
    ⟨here, above⟩ :: preorderAll (here :: above) (next + 1) cs

/-- The visits of a list of siblings. -/
def preorderAll (above : List Place) (next : Nat) : List Node → List Visit
  | [] => []
  | c :: cs => preorder above next c ++ preorderAll above (next + c.size) cs

end

mutual

/-- The nodes of a tree that lie in no function definition, when `next` is the root's index. -/
def scope (next : Nat) : Node → List Place
  | .mk l cs =>
    if (Node.mk l cs).isFunction then [] else ⟨next, .mk l cs⟩ :: scopeAll (next + 1) cs

/-- The nodes of a list of siblings that lie in no function definition. -/
def scopeAll (next : Nat) : List Node → List Place
  | [] => []
  | c :: cs => scope next c ++ scopeAll (next + c.size) cs

end

end CallFlow.Tree
