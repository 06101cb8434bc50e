import CallFlow.Text.Quoted
import CallFlow.Tree.Walk

/-!
# Outlines of trees

A tree as text, a node a line, indented by depth, with position and the beginning of its text. Nodes
at the depth limit are shown as points, and nothing below them.
-/

namespace CallFlow.Tree

/-- Longest text shown of a node. -/
def outlineTextLength : Nat := 50

/-- The beginning of a node's text, with line feeds spelled out, in quotes. -/
def outlineText (src : Source) (n : Node) : String :=
  let cs := (n.text src).toList
  let shown :=
    if cs.length > outlineTextLength then cs.take outlineTextLength ++ "...".toList else cs
  Text.Quoted.encode (String.ofList (shown.flatMap fun c => if c == '\n' then ['\\', 'n'] else [c]))

/-- The line of one node, if it is not too deep. -/
def outlineLine? (src : Source) (limit : Int) (v : Visit) : Option String :=
  let indent := String.ofList (List.replicate (2 * v.depth) ' ')
  if (v.depth : Int) > limit then none
  else if (v.depth : Int) = limit then some (indent ++ "...")
  else
    let p := src.point v.node.start
    some (indent ++ v.node.kind ++ " [" ++ toString (p.row + 1) ++ ":" ++ toString p.column ++
      "] = " ++ outlineText src v.node)

/-- The outline of a tree down to a depth. -/
def outline (src : Source) (limit : Int) (root : Node) : String :=
  "\n".intercalate ((walk root).filterMap (outlineLine? src limit)) ++ "\n"

end CallFlow.Tree
