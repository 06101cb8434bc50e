import CallFlow.Text.Search

/-!
# Call targets

The name of a callee is a plain name or a chain of names with dots between them.
-/

namespace CallFlow.Target

/-- The object a call starts from: the text before the first dot. -/
def base (target : String) : String :=
  String.ofList (target.toList.takeWhile (· != '.'))

/-- The names between the dots. -/
def parts (target : String) : List String :=
  (Text.splitAt '.' target.toList).map String.ofList

/-- Does the target contain the name, as a whole or as any part of its text? -/
def mentions (target name : String) : Bool :=
  Text.contains target name

end CallFlow.Target
