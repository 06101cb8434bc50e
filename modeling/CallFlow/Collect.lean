/-!
# Collecting without repetition
-/

namespace CallFlow

/-- Adds an element at the end unless one with its key is there already. -/
def insertNew {α κ : Type} [BEq κ] (key : α → κ) (kept : List α) (x : α) : List α :=
  if kept.any (key · == key x) then kept else kept ++ [x]

end CallFlow
