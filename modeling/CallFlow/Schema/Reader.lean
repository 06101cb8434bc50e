import CallFlow.Json.Basic
import CallFlow.Number.Decimal
import CallFlow.Schema.Checked

/-!
# Reading values leniently

A reader takes a JSON value to a checked one. Readers are lenient where the meaning is plain: a
number may be written as text, a truth value as a number or as one of a few words.
-/

namespace CallFlow.Schema

/-- A way to read values. -/
abbrev Reader (α : Type) := Json → Checked α

variable {α β : Type}

/-! ## Texts and numbers -/

/-- A text. -/
def text : Reader String
  | .string s => .ok s
  | _ => .fault .notText

/-- The characters that may stand around a number. -/
def isBlank (c : Char) : Bool :=
  let n := c.toNat
  (9 ≤ n && n ≤ 13) || n == 0x20 || n == 0x85 || n == 0xA0 || n == 0x1680 ||
    (0x2000 ≤ n && n ≤ 0x200A) || n == 0x2028 || n == 0x2029 || n == 0x202F || n == 0x205F ||
    n == 0x3000

/-- Removes blanks at both ends. -/
def trim (cs : List Char) : List Char :=
  ((cs.dropWhile isBlank).reverse.dropWhile isBlank).reverse

/-- Splits off a sign; true for a minus. -/
def readSign : List Char → Bool × List Char
  | '-' :: cs => (true, cs)
  | '+' :: cs => (false, cs)
  | cs => (false, cs)

/-- Removes single underscores between digits; none if one stands elsewhere. -/
def joinDigits? : List Char → Option (List Char)
  | [] => some []
  | [c] => if c == '_' then none else some [c]
  | c :: '_' :: d :: rest =>
    if c.isDigit && d.isDigit then (joinDigits? (d :: rest)).map (c :: ·) else none
  | c :: rest => if c == '_' then none else (joinDigits? rest).map (c :: ·)

/-- The whole number that a text stands for: digits with an optional sign in front and, behind,
an optional point with any number of zeros. -/
def wholeOfText? (s : String) : Option Int :=
  let (negative, body) := readSign (trim s.toList)
  let whole := body.takeWhile (· != '.')
  let zeros :=
    match body.drop whole.length with
    | [] => true
    | _ :: fraction => fraction.all (· == '0')
  match joinDigits? whole with
  | some ds =>
    if zeros && !ds.isEmpty && ds.all Char.isDigit then
      let n := Decimal.valueOf ds
      some (if negative then Int.negOfNat n else n)
    else none
  | none => none

/-- The number that a text stands for. -/
def numberOfText? (s : String) : Option Binary64 :=
  match joinDigits? (trim s.toList) with
  | none => none
  | some cs =>
    let (negative, body) := readSign cs
    let (whole, rest) := Decimal.spanDigits body
    let (fraction, rest) :=
      match rest with
      | '.' :: r => Decimal.spanDigits r
      | r => ([], r)
    if whole.isEmpty && fraction.isEmpty then none
    else if rest.isEmpty then some (Decimal.ofParts negative whole fraction 0)
    else
      match Decimal.readExponent? rest with
      | some (e, []) => some (Decimal.ofParts negative whole fraction e)
      | _ => none

/-- Whole numbers that are read from a fractional notation lie strictly within these bounds. -/
def wholeLimit : Int := twoTo 63

/-- The whole number with the value of a real one. -/
def wholeOfReal (x : Binary64) : Checked Int :=
  match x.toInt? with
  | none => .fault .fractional
  | some n => if -wholeLimit < n ∧ n < wholeLimit then .ok n else .fault .wholeTooLarge

/-- A whole number. -/
def whole : Reader Int
  | .int n => .ok n
  | .bool b => .ok (if b then 1 else 0)
  | .real x => wholeOfReal x
  | .nonFinite _ => .fault .notFinite
  | .string s =>
    match wholeOfText? s with
    | some n => .ok n
    | none => .fault .unreadableWhole
  | _ => .fault .notWhole

/-- A whole number that is at least `least`. -/
def atLeast (least : Nat) : Reader Nat := fun v =>
  (whole v).andThen fun n => if (least : Int) ≤ n then .ok n.toNat else .fault .tooSmall

/-- A number. -/
def number : Reader Binary64
  | .int n => .ok (Binary64.ofInt n)
  | .bool b => .ok (if b then Binary64.one else Binary64.zero)
  | .real x => .ok x
  | .string s =>
    match numberOfText? s with
    | some x => .ok x
    | none => .fault .unreadableNumber
  | _ => .fault .notNumber

/-- A number that is not negative. -/
def nonNegative : Reader Binary64 := fun v =>
  (number v).andThen fun x => if Binary64.zero ≤ x then .ok x else .fault .tooSmall

/-- A number from zero to one. -/
def fraction : Reader Binary64 := fun v =>
  (nonNegative v).andThen fun x => if x ≤ Binary64.one then .ok x else .fault .tooLarge

/-! ## Truth values and choices -/

/-- Words for yes. -/
def affirmations : List String := ["1", "on", "t", "true", "y", "yes"]

/-- Words for no. -/
def negations : List String := ["0", "off", "f", "false", "n", "no"]

/-- The truth value of a number. -/
def truthOfWhole (n : Int) : Checked Bool :=
  if n = 0 then .ok false else if n = 1 then .ok true else .fault .unreadableTruth

/-- A truth value. -/
def truth : Reader Bool
  | .bool b => .ok b
  | .int n => if -wholeLimit ≤ n ∧ n < wholeLimit then truthOfWhole n else .fault .notTruth
  | .real x =>
    match wholeOfReal x with
    | .ok n => truthOfWhole n
    | .faulty _ => .fault .notTruth
  | .string s =>
    let word := String.ofList (s.toList.map Char.toLower)
    if affirmations.contains word then .ok true
    else if negations.contains word then .ok false
    else .fault .unreadableTruth
  | _ => .fault .notTruth

/-- One of a few values, each given with its spelling. -/
def choice (values : List α) (spelling : α → String) : Reader α
  | .string s =>
    match values.find? (spelling · == s) with
    | some a => .ok a
    | none => .fault .notAmong
  | _ => .fault .notAmong

/-! ## Composite values -/

/-- `null`, or a value. -/
def nullable (read : Reader α) : Reader (Option α)
  | .null => .ok none
  | v => (read v).map some

/-- A list. -/
def list (read : Reader α) : Reader (List α)
  | .array items => Checked.all (items.mapIdx fun i v => (read v).under (.item i))
  | _ => .fault .notList

/-- A table from names to values, in order. -/
def table (read : Reader α) : Reader (List (String × α))
  | .object members =>
    Checked.all (members.map fun (k, v) => ((read v).under (.field k)).map (k, ·))
  | _ => .fault .notTable

/-! ## Records -/

/-- The members of an object. -/
abbrev Members := List (String × Json)

/-- The fields of a record: their names, and how its parts are read from the members of an object. -/
structure Fields (α : Type) where
  names : List String
  read : Members → Checked α

namespace Fields

/-- No fields. -/
def start (f : α) : Fields α := ⟨[], fun _ => .ok f⟩

/-- One more field. -/
def with_ (fs : Fields (α → β)) (name : String) (absent : Checked α) (read : Reader α) : Fields β :=
  { names := fs.names ++ [name]
    read := fun ms =>
      (fs.read ms).ap (((ms.lookup name).elim absent read).under (.field name)) }

/-- One more field, which has to be present. -/
def required (fs : Fields (α → β)) (name : String) (read : Reader α) : Fields β :=
  fs.with_ name (.fault .missing) read

/-- One more field, with a value for its absence. -/
def default (fs : Fields (α → β)) (name : String) (read : Reader α) (absent : α) : Fields β :=
  fs.with_ name (.ok absent) read

/-- The faults of members that are no fields. -/
def unknown (fs : Fields α) (ms : Members) : List Fault :=
  (ms.filter fun m => !fs.names.contains m.1).map fun m => ⟨[.field m.1], .unknownField⟩

/-- A record; members that are no fields are ignored. -/
def lax (fs : Fields α) : Reader α
  | .object ms => fs.read ms
  | _ => .fault .notRecord

/-- A record; members that are no fields are faults, listed last. -/
def strict (fs : Fields α) : Reader α
  | .object ms => (fs.read ms).also (fs.unknown ms)
  | _ => .fault .notRecord

end Fields

end CallFlow.Schema
