import CallFlow.Tree.Source

/-!
# Syntax trees

A node has a kind, a byte span and ordered children; a child may hang in its parent under a field
name. Anonymous nodes (keywords and punctuation) are children like any other, but are not *named*.
-/

namespace CallFlow.Tree

/-- What a node is, apart from its children. -/
structure Label where
  /-- Grammar symbol, such as `call_expression`. -/
  kind : String
  /-- Offset of the first byte. -/
  start : Nat
  /-- Offset after the last byte. -/
  stop : Nat
  /-- Field of the parent under which the node hangs. -/
  field : Option String := none
  /-- False for keywords and punctuation. -/
  named : Bool := true
  /-- True for a token that error recovery made up. -/
  missing : Bool := false
  /-- False for a node that gives no text. -/
  hasText : Bool := true
  deriving Repr, DecidableEq, Inhabited

/-- A syntax tree. -/
inductive Node where
  | mk (label : Label) (children : List Node)
  deriving Repr, Inhabited

namespace Node

def label : Node → Label
  | mk l _ => l

def children : Node → List Node
  | mk _ cs => cs

def kind (n : Node) : String := n.label.kind
def start (n : Node) : Nat := n.label.start
def stop (n : Node) : Nat := n.label.stop
def isNamed (n : Node) : Bool := n.label.named
def isMissing (n : Node) : Bool := n.label.missing

/-- The children that are neither keywords nor punctuation. -/
def namedChildren (n : Node) : List Node :=
  n.children.filter isNamed

/-- The first child that hangs under the given field. -/
def child? (n : Node) (field : String) : Option Node :=
  n.children.find? (·.label.field == some field)

/-- The same node hung under another field. -/
def inField (field : String) : Node → Node
  | mk l cs => mk { l with field := some field } cs

/-- The same node with another kind. -/
def ofKind (kind : String) : Node → Node
  | mk l cs => mk { l with kind := kind } cs

/-- The text of a node, empty if it gives none. -/
def text (src : Source) (n : Node) : String :=
  if n.label.hasText then src.text n.start n.stop else ""

/-- Line on which a node starts, from 1. -/
def line (src : Source) (n : Node) : Nat :=
  (src.point n.start).row + 1

/-- Line on which a node ends, from 1. -/
def endLine (src : Source) (n : Node) : Nat :=
  (src.point n.stop).row + 1

/-- Column at which a node starts, in bytes from 0. -/
def column (src : Source) (n : Node) : Nat :=
  (src.point n.start).column

/-! ## Size -/

mutual

/-- Number of nodes of a tree. -/
def size : Node → Nat
  | mk _ cs => 1 + sizeAll cs

/-- Number of nodes of a list of trees. -/
def sizeAll : List Node → Nat
  | [] => 0
  | c :: cs => c.size + sizeAll cs

end

theorem sizeAll_append (xs ys : List Node) : sizeAll (xs ++ ys) = sizeAll xs + sizeAll ys := by
  induction xs with
  | nil => simp [sizeAll]
  | cons x xs ih => simp only [List.cons_append, sizeAll, ih]; omega

/-- A node counts one more than its children together. -/
theorem size_eq (n : Node) : n.size = 1 + sizeAll n.children := by
  cases n; simp [size, children]

/-! ## Function definitions -/

/-- The kinds of node that define a function, and so open a scope for the calls written in them. -/
def functionKinds : List String :=
  ["function_declaration", "generator_function_declaration", "function_expression",
    "generator_function", "arrow_function", "method_definition"]

/-- Does the node define a function? The bare keyword of the same spelling does not: it is not
named. -/
def isFunction (n : Node) : Bool :=
  n.isNamed && functionKinds.contains n.kind

end Node

end CallFlow.Tree
