import CallFlow.Number.Natural

/-!
# Binary floating-point numbers

A finite number of the binary 64-bit format as an exact value: a sign, a significand below 2^53 and
a power of two. Rounding takes the nearest number of the format and, of two equally near, the one
with the even significand. All arithmetic here is exact arithmetic on natural numbers.
-/

namespace CallFlow

/-- A finite binary number: `significand * 2 ^ exponent`, negated if `negative`. -/
structure Binary64 where
  negative : Bool
  significand : Nat
  exponent : Int
  deriving Repr, DecidableEq, Inhabited

namespace Binary64

/-- The least exponent of the format. -/
def leastExponent : Int := -1074

/-- The greatest exponent of the format. -/
def greatestExponent : Int := 971

/-- Number of bits of a full significand. -/
def precision : Nat := 53

/-- The quotient nearest to `n / d`; of two equally near, the even one. -/
def roundDiv (n d : Nat) : Nat :=
  let q := n / d
  let r := n % d
  if 2 * r < d then q
  else if 2 * r > d then q + 1
  else if q % 2 = 0 then q else q + 1

/-- The exponent at which the ratio of two positive numbers has a full significand, or the least one
if that is greater. -/
def exponentOf (n d : Nat) : Int :=
  let guess : Int := (Nat.log2 n : Int) - (Nat.log2 d : Int) - 52
  let fills :=
    if guess ≥ 0 then twoTo 52 * (d * twoTo guess.toNat) ≤ n
    else twoTo 52 * d ≤ n * twoTo (-guess).toNat
  max leastExponent (if fills then guess else guess - 1)

/-- The number of the format nearest to the ratio `n / d`, for positive `d`. Ratios beyond the
greatest number give that number. -/
def ofRatio (negative : Bool) (n d : Nat) : Binary64 :=
  if n = 0 then ⟨negative, 0, leastExponent⟩
  else
    let e := exponentOf n d
    let m := if e ≥ 0 then roundDiv n (d * twoTo e.toNat) else roundDiv (n * twoTo (-e).toNat) d
    if e > greatestExponent then ⟨negative, twoTo 53 - 1, greatestExponent⟩
    else if m = twoTo precision then ⟨negative, twoTo 52, e + 1⟩
    else ⟨negative, m, e⟩

/-- The number nearest to a natural number. -/
def ofNat (n : Nat) : Binary64 := ofRatio false n 1

/-- The number nearest to an integer. -/
def ofInt (n : Int) : Binary64 := ofRatio (n < 0) n.natAbs 1

/-- Zero. -/
def zero : Binary64 := ofNat 0

/-- One. -/
def one : Binary64 := ofNat 1

/-- The number nearest to `n / d`. -/
def quotient (n d : Nat) : Binary64 := ofRatio false n d

/-- The number nearest to `±n * 10 ^ k`. -/
def ofDecimal (negative : Bool) (n : Nat) (k : Int) : Binary64 :=
  if k ≥ 0 then ofRatio negative (n * tenTo k.toNat) 1 else ofRatio negative n (tenTo (-k).toNat)

/-- The significand with its sign. -/
def signed (x : Binary64) : Int :=
  if x.negative then -(x.significand : Int) else x.significand

/-- The value as an exact ratio of an integer and a power of two. -/
def toRatio (x : Binary64) : Int × Nat :=
  if x.exponent ≥ 0 then (x.signed * twoTo x.exponent.toNat, 1)
  else (x.signed, twoTo (-x.exponent).toNat)

/-- The number nearest to the product with a natural number. -/
def scale (x : Binary64) (k : Nat) : Binary64 :=
  let (n, d) := x.toRatio
  ofRatio x.negative (n.natAbs * k) d

/-- Comparison by value. -/
def lt (x y : Binary64) : Bool :=
  let (a, b) := x.toRatio
  let (c, d) := y.toRatio
  decide (a * d < c * b)

/-- Comparison by value. -/
def le (x y : Binary64) : Bool := !y.lt x

instance : LT Binary64 := ⟨fun x y => x.lt y = true⟩
instance : LE Binary64 := ⟨fun x y => x.le y = true⟩

instance (x y : Binary64) : Decidable (x < y) := inferInstanceAs (Decidable (x.lt y = true))
instance (x y : Binary64) : Decidable (x ≤ y) := inferInstanceAs (Decidable (x.le y = true))

/-- The integer with this value, if there is one. -/
def toInt? (x : Binary64) : Option Int :=
  let (n, d) := x.toRatio
  if n % d = 0 then some (n / d) else none

end Binary64

end CallFlow
