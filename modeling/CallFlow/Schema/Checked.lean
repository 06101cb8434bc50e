/-!
# Checked values

Reading a record from loose data either succeeds or lists every fault, each with the place where it
was found. Reading two parts lists the faults of both, those of the first part first.
-/

namespace CallFlow.Schema

/-- One step on the way into a value. -/
inductive Step where
  | field (name : String)
  | item (index : Nat)
  deriving Repr, DecidableEq, Inhabited

/-- What is wrong with a value. -/
inductive FaultKind where
  /-- A field without default is absent. -/
  | missing
  /-- A field that the record does not have. -/
  | unknownField
  /-- An attempt to change a field of a finished record. -/
  | frozen
  | notText
  | notWhole
  | unreadableWhole
  | wholeTooLarge
  | fractional
  | notFinite
  | notNumber
  | unreadableNumber
  | notTruth
  | unreadableTruth
  | notAmong
  | notList
  | notTable
  | notRecord
  | notTime
  | unreadableTime
  | tooSmall
  | tooLarge
  deriving Repr, DecidableEq, Inhabited

/-- The code under which a fault is reported. -/
def FaultKind.code : FaultKind → String
  | missing => "missing"
  | unknownField => "extra_forbidden"
  | frozen => "frozen_instance"
  | notText => "string_type"
  | notWhole => "int_type"
  | unreadableWhole => "int_parsing"
  | wholeTooLarge => "int_parsing_size"
  | fractional => "int_from_float"
  | notFinite => "finite_number"
  | notNumber => "float_type"
  | unreadableNumber => "float_parsing"
  | notTruth => "bool_type"
  | unreadableTruth => "bool_parsing"
  | notAmong => "enum"
  | notList => "list_type"
  | notTable => "dict_type"
  | notRecord => "model_type"
  | notTime => "datetime_type"
  | unreadableTime => "datetime_from_date_parsing"
  | tooSmall => "greater_than_equal"
  | tooLarge => "less_than_equal"

/-- A fault with its place, the outermost step first. -/
structure Fault where
  place : List Step
  kind : FaultKind
  deriving Repr, DecidableEq, Inhabited

/-- The same fault seen from one level further out. -/
def Fault.under (step : Step) (f : Fault) : Fault :=
  { f with place := step :: f.place }

/-- A value, or what is wrong with it. -/
inductive Checked (α : Type) where
  | ok (value : α)
  | faulty (faults : List Fault)
  deriving Repr, Inhabited

namespace Checked

variable {α β : Type}

/-- A single fault at the value itself. -/
def fault (kind : FaultKind) : Checked α := faulty [⟨[], kind⟩]

def map (f : α → β) : Checked α → Checked β
  | ok a => ok (f a)
  | faulty fs => faulty fs

/-- Applies a checked function; the faults of both sides are kept. -/
def ap : Checked (α → β) → Checked α → Checked β
  | ok f, x => x.map f
  | faulty fs, ok _ => faulty fs
  | faulty fs, faulty gs => faulty (fs ++ gs)

/-- Goes on with the value, if there is one. -/
def andThen (x : Checked α) (f : α → Checked β) : Checked β :=
  match x with
  | ok a => f a
  | faulty fs => faulty fs

/-- The same outcome seen from one level further out. -/
def under (step : Step) : Checked α → Checked α
  | ok a => ok a
  | faulty fs => faulty (fs.map (·.under step))

/-- The faults found. -/
def faults : Checked α → List Fault
  | ok _ => []
  | faulty fs => fs

/-- A value whose faults are accompanied by further ones. -/
def also (more : List Fault) (x : Checked α) : Checked α :=
  if more.isEmpty then x else faulty (x.faults ++ more)

/-- All of a list of checked values. -/
def all : List (Checked α) → Checked (List α)
  | [] => ok []
  | x :: xs => ((x.map List.cons).ap (all xs))

/-- The outcome as a result or the list of its faults. -/
def toExcept : Checked α → Except (List Fault) α
  | ok a => .ok a
  | faulty fs => .error fs

end Checked

end CallFlow.Schema
