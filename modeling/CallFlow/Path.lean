/-!
# File paths

A path is read from text with its superfluous marks removed: single points and repeated or trailing
slashes vanish, two points stay. Exactly two leading slashes are kept apart from one.
-/

namespace CallFlow

/-- A path in slash notation. -/
structure Path where
  /-- Leading slashes: none, one, or two. -/
  slashes : Nat
  /-- The names between the slashes. -/
  parts : List String
  deriving Repr, DecidableEq, Inhabited

namespace Path

/-- Cuts at every slash. -/
def splitSlash : List Char → List (List Char)
  | [] => [[]]
  | c :: cs =>
    if c == '/' then [] :: splitSlash cs
    else
      match splitSlash cs with
      | [] => [[c]]
      | p :: ps => (c :: p) :: ps

/-- Parts that name no step. -/
def isVoid (part : List Char) : Bool :=
  part.isEmpty || part == ['.']

/-- Reads a path. -/
def ofString (text : String) : Path :=
  let cs := text.toList
  let leading := (cs.takeWhile (· == '/')).length
  { slashes := if leading = 2 then 2 else min leading 1
    parts := ((splitSlash cs).filter (!isVoid ·)).map String.ofList }

/-- Writes a path; a path without parts is a point. -/
def toString (p : Path) : String :=
  let body := "/".intercalate p.parts
  if p.slashes = 0 then if p.parts.isEmpty then "." else body
  else String.ofList (List.replicate p.slashes '/') ++ body

instance : ToString Path := ⟨toString⟩

/-- A relative path is taken from `p`; an absolute one stands for itself. -/
def join (p q : Path) : Path :=
  if q.slashes = 0 then { p with parts := p.parts ++ q.parts } else q

/-- The path one step below. -/
def child (p : Path) (name : String) : Path :=
  { p with parts := p.parts ++ [name] }

/-- The last part, empty if there is none. -/
def name (p : Path) : String :=
  p.parts.getLast?.getD ""

/-! ## Suffixes -/

/-- Splits a name at its last point, if that is neither its first nor its last character. -/
def splitName (name : String) : String × String :=
  let reversed := name.toList.reverse
  let ending := reversed.takeWhile (· != '.')
  match reversed.drop ending.length with
  | _ :: before =>
    if ending.isEmpty || before.isEmpty then (name, "")
    else (String.ofList before.reverse, String.ofList ('.' :: ending.reverse))
  | [] => (name, "")

/-- The name without its suffix. -/
def stem (p : Path) : String := (splitName p.name).1

/-- The suffix of the name with its point, empty if there is none. -/
def suffix (p : Path) : String := (splitName p.name).2

end Path

end CallFlow
