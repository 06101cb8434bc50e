import CallFlow.Number.Binary64

/-!
# Decimal text of numbers

Three ways to write a number: with the fewest digits that read back as the same number, with a fixed
number of places, and with a fixed number of significant digits. Each works on the exact value.
-/

namespace CallFlow.Decimal

/-- The digits of a number. -/
def digits (n : Nat) : String := toString n

/-! ## The fewest digits -/

/-- A decimal number `digits * 10 ^ exponent`. -/
structure Scaled where
  digits : Nat
  exponent : Int
  deriving Repr, DecidableEq

/-- Drops trailing zeros, at most so many. -/
def Scaled.strip : Nat → Scaled → Scaled
  | 0, s => s
  | k + 1, s =>
    if s.digits ≠ 0 ∧ s.digits % 10 = 0 then strip k ⟨s.digits / 10, s.exponent + 1⟩ else s

/-- Number of decimal digits of a natural number. -/
def width (n : Nat) : Nat := (Nat.toDigits 10 n).length

/-- The least `j ≤ limit`, counted from `from_`, with `d ≤ n * 10 ^ j`. -/
def leastShift (n d : Nat) : Nat → Nat → Nat
  | 0, from_ => from_
  | limit + 1, from_ => if d ≤ n * tenTo from_ then from_ else leastShift n d limit (from_ + 1)

/-- The greatest `k` with `10 ^ k ≤ n / d`, for a positive ratio. -/
def magnitude (n d : Nat) : Int :=
  if d ≤ n then (width (n / d) : Int) - 1
  else
    -- The binary logarithms fix the shift up to a few steps.
    let near := (Nat.log2 d - Nat.log2 n) * 3 / 10
    Int.negOfNat (leastShift n d 400 (near - 1))

/-- The reals that round to a number, as numerators over a common denominator, with the number's own
value between. -/
structure Interval where
  low : Nat
  value : Nat
  high : Nat
  denominator : Nat
  /-- Do the ends themselves round to the number? -/
  closed : Bool

/-- The interval of a positive number. Below a power of two the gap to the next number is half as
wide. -/
def Interval.of (x : Binary64) : Interval :=
  let m := x.significand
  let narrow := m = twoTo 52 ∧ x.exponent > Binary64.leastExponent
  let e := x.exponent - 2
  let s := if e ≥ 0 then twoTo e.toNat else 1
  { low := (if narrow then 4 * m - 1 else 4 * m - 2) * s
    value := 4 * m * s
    high := (4 * m + 2) * s
    denominator := if e ≥ 0 then 1 else twoTo (-e).toNat
    closed := m % 2 = 0 }

/-- Does the interval hold `d * up / down`? -/
def Interval.holds (i : Interval) (d up down : Nat) : Bool :=
  let v := d * up * i.denominator
  if i.closed then i.low * down ≤ v && v ≤ i.high * down
  else i.low * down < v && v < i.high * down

/-- The number of so many digits, out of the value's two neighbours on that decimal grid, that lies
in the interval; of two, the nearer, and of two equally near, the even one. -/
def Interval.withDigits? (i : Interval) (k : Int) (count : Nat) : Option Scaled :=
  let t := k - count + 1
  let up := tenTo t.toNat
  let down := tenTo (-t).toNat
  let f := i.value * down / (i.denominator * up)
  match i.holds f up down, i.holds (f + 1) up down with
  | false, false => none
  | true, false => some ⟨f, t⟩
  | false, true => some ⟨f + 1, t⟩
  | true, true =>
    let twice := 2 * i.value * down
    let middle := (2 * f + 1) * up * i.denominator
    if twice < middle then some ⟨f, t⟩
    else if middle < twice then some ⟨f + 1, t⟩
    else some ⟨if f % 2 = 0 then f else f + 1, t⟩

/-- The shortest decimal that reads back as the given positive number. Seventeen digits always
do. -/
def shortest (x : Binary64) : Scaled :=
  let i := Interval.of x
  let k := magnitude i.value i.denominator
  (((List.range 17).findSome? fun c => i.withDigits? k (c + 1)).getD ⟨0, 0⟩).strip 20

/-- How a shortest decimal is written out. -/
structure Style where
  /-- Magnitudes below which an exponent is used. -/
  leastPositional : Int
  /-- Magnitudes from which on an exponent is used. -/
  exponentFrom : Int

/-- `digits * 10 ^ exponent` with a point among the digits, and at least one digit on each side of
it. -/
def positional (s : Scaled) : String :=
  let ds := (digits s.digits).toList
  let point : Int := ds.length + s.exponent
  if s.exponent ≥ 0 then String.ofList (ds ++ List.replicate s.exponent.toNat '0') ++ ".0"
  else if point > 0 then
    String.ofList (ds.take point.toNat) ++ "." ++ String.ofList (ds.drop point.toNat)
  else "0." ++ String.ofList (List.replicate (-point).toNat '0' ++ ds)

/-- `digits * 10 ^ exponent` with one digit before the point and an exponent. -/
def scientific (s : Scaled) : String :=
  let ds := (digits s.digits).toList
  let e : Int := ds.length + s.exponent - 1
  let fraction := if ds.length ≤ 1 then "" else "." ++ String.ofList (ds.drop 1)
  String.ofList (ds.take 1) ++ fraction ++ "e" ++ toString e

/-- The fewest digits that read back, in the given style. -/
def writeShortest (style : Style) (x : Binary64) : String :=
  let sign := if x.negative then "-" else ""
  if x.significand = 0 then sign ++ "0.0"
  else
    let s := shortest x
    let e : Int := width s.digits + s.exponent - 1
    sign ++ (if style.leastPositional ≤ e ∧ e < style.exponentFrom then positional s
      else scientific s)

/-! ## Fixed places -/

/-- The number with so many places behind the point, a half going to the even neighbour. -/
def writeFixed (places : Nat) (x : Binary64) : String :=
  let (n, d) := x.toRatio
  let units := Binary64.roundDiv (n.natAbs * tenTo places) d
  let sign := if x.negative then "-" else ""
  if places = 0 then sign ++ digits units
  else
    let fraction := digits (units % tenTo places)
    sign ++ digits (units / tenTo places) ++ "." ++
      String.ofList (List.replicate (places - fraction.length) '0') ++ fraction

/-! ## Significant digits -/

/-- Rounds a positive ratio to so many digits. -/
def roundDigits (count n d : Nat) : Scaled :=
  let k := magnitude n d
  let t := k - count + 1
  let m := Binary64.roundDiv (n * tenTo (-t).toNat) (d * tenTo t.toNat)
  if m = tenTo count then ⟨tenTo (count - 1), t + 1⟩ else ⟨m, t⟩

/-- An exponent with its sign and at least two digits. -/
def writeExponent (e : Int) : String :=
  let ds := digits e.natAbs
  (if e < 0 then "-" else "+") ++ (if ds.length < 2 then "0" ++ ds else ds)

/-- The number with so many significant digits, without trailing zeros; with an exponent below
0.0001 and where the digits end before the point. -/
def writeGeneral (count : Nat) (x : Binary64) : String :=
  let sign := if x.negative then "-" else ""
  if x.significand = 0 then sign ++ "0"
  else
    let (n, d) := x.toRatio
    let rounded := roundDigits count n.natAbs d
    let e : Int := rounded.exponent + count - 1
    let s := rounded.strip count
    let ds := (digits s.digits).toList
    let body :=
      if -4 ≤ e ∧ e < count then
        if s.exponent ≥ 0 then String.ofList (ds ++ List.replicate s.exponent.toNat '0')
        else positional s
      else
        let fraction := if ds.length ≤ 1 then "" else "." ++ String.ofList (ds.drop 1)
        String.ofList (ds.take 1) ++ fraction ++ "e" ++ writeExponent e
    sign ++ body

/-! ## Reading -/

/-- The value of a run of digits. -/
def valueOf (ds : List Char) : Nat :=
  ds.foldl (fun n c => n * 10 + (c.toNat - 48)) 0

/-- Splits off leading digits. -/
def spanDigits (cs : List Char) : List Char × List Char :=
  (cs.takeWhile Char.isDigit, cs.dropWhile Char.isDigit)

/-- The exponent that may end a number, and what is behind it. -/
def readExponent? (cs : List Char) : Option (Int × List Char) :=
  match cs with
  | c :: r =>
    if c == 'e' || c == 'E' then
      let (negative, r) :=
        match r with
        | '-' :: r => (true, r)
        | '+' :: r => (false, r)
        | r => (false, r)
      let (ds, r) := spanDigits r
      if ds.isEmpty then none
      else some (if negative then -(valueOf ds : Int) else valueOf ds, r)
    else some (0, cs)
  | [] => some (0, [])

/-- The number with the given decimal digits before and behind the point and exponent. Exponents far
outside the format are cut back to ones that round to the same number. -/
def ofParts (negative : Bool) (whole fraction : List Char) (e : Int) : Binary64 :=
  let n := valueOf (whole ++ fraction)
  let k := e - fraction.length
  if n = 0 then ⟨negative, 0, Binary64.leastExponent⟩
  else
    let size : Int := width n + k
    if size > 400 then ⟨negative, twoTo 53 - 1, Binary64.greatestExponent⟩
    else if size < -400 then ⟨negative, 0, Binary64.leastExponent⟩
    else Binary64.ofDecimal negative n k

end CallFlow.Decimal
