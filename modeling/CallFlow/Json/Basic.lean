import CallFlow.Number.Binary64

/-!
# JSON values

Values of the data format, with whole numbers kept apart from fractional ones. An object is a list of
members in order; setting a key that is present replaces its value in place.
-/

namespace CallFlow

/-- A JSON value. -/
inductive Json where
  | null
  | bool (b : Bool)
  /-- A number written without point and exponent. -/
  | int (n : Int)
  /-- A number written with a point or exponent. -/
  | real (x : Binary64)
  /-- One of the words for numbers that are not finite. -/
  | nonFinite (word : String)
  | string (s : String)
  | array (items : List Json)
  | object (members : List (String × Json))
  deriving Repr, Inhabited

namespace Json

/-- Sets a member: in place if the key is present, else at the end. -/
def setMember {α : Type} (key : String) (value : α) : List (String × α) → List (String × α)
  | [] => [(key, value)]
  | (k, v) :: rest =>
    if k == key then (key, value) :: rest else (k, v) :: setMember key value rest

/-- Members in order, where a later value of a key replaces the earlier one. -/
def mergeMembers {α : Type} (members : List (String × α)) : List (String × α) :=
  members.foldl (fun found (k, v) => setMember k v found) []

/-- The member of an object. -/
def member? (key : String) : Json → Option Json
  | object members => members.lookup key
  | _ => none

/-- A list of texts. -/
def strings (xs : List String) : Json :=
  array (xs.map string)

/-- A whole number that is not negative. -/
def nat (n : Nat) : Json := int n

/-- An optional value, `null` if absent. -/
def optional {α : Type} (f : α → Json) : Option α → Json
  | some a => f a
  | none => null

end Json

end CallFlow
