/-!
# Searching in text

Whether one text occurs in another, and the parts of a text between dots.
-/

namespace CallFlow.Text

/-- Does `part` occur at some place of `whole`? -/
def occursIn (part : List Char) : List Char → Bool
  | [] => part.isEmpty
  | c :: cs => part.isPrefixOf (c :: cs) || occursIn part cs

/-- Does `part` occur in `whole`? The empty text occurs everywhere. -/
def contains (whole part : String) : Bool :=
  occursIn part.toList whole.toList

/-- Cuts at every occurrence of a character. -/
def splitAt (mark : Char) : List Char → List (List Char)
  | [] => [[]]
  | c :: cs =>
    if c == mark then [] :: splitAt mark cs
    else
      match splitAt mark cs with
      | [] => [[c]]
      | p :: ps => (c :: p) :: ps

end CallFlow.Text
