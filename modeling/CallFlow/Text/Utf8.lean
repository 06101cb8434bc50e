/-!
# UTF-8

Bytes of a text and back. Decoding first cuts the bytes into well-formed sequences and maximal
ill-formed runs (`segments`); the forgiving reader puts U+FFFD for each run, the strict one refuses
the whole text.
-/

namespace CallFlow.Text.Utf8

/-- The UTF-8 bytes of a list of characters. -/
def encode (cs : List Char) : List UInt8 :=
  cs.flatMap String.utf8EncodeChar

/-- The character that stands for an ill-formed run. -/
def replacement : Char := Char.ofNat 0xFFFD

/-- Bytes that continue a sequence. -/
def isContinuation (b : UInt8) : Bool :=
  0x80 ≤ b && b ≤ 0xBF

/-- The second bytes that may follow a given lead byte of three or four bytes. They exclude
overlong forms, surrogates and everything above U+10FFFF. -/
def isSecond (lead b : UInt8) : Bool :=
  if lead == 0xE0 then 0xA0 ≤ b && b ≤ 0xBF
  else if lead == 0xED then 0x80 ≤ b && b ≤ 0x9F
  else if lead == 0xF0 then 0x90 ≤ b && b ≤ 0xBF
  else if lead == 0xF4 then 0x80 ≤ b && b ≤ 0x8F
  else isContinuation b

/-- The character with the given bits: `bits` of the lead byte, then six of each following byte. -/
def assemble (bits : Nat) (rest : List UInt8) : Char :=
  Char.ofNat (rest.foldl (fun n b => n * 64 + b.toNat % 64) bits)

/-- Cuts bytes into characters and ill-formed runs (`none`). A run is as long as it is the beginning
of some well-formed sequence, and at least one byte. -/
def segments : List UInt8 → List (Option Char)
  | [] => []
  | a :: r =>
    if a < 0x80 then some (Char.ofNat a.toNat) :: segments r
    else if 0xC2 ≤ a && a ≤ 0xDF then
      match r with
      | b :: r₁ =>
        if isContinuation b then some (assemble (a.toNat % 32) [b]) :: segments r₁
        else none :: segments (b :: r₁)
      | [] => [none]
    else if 0xE0 ≤ a && a ≤ 0xEF then
      match r with
      | b :: c :: r₂ =>
        if isSecond a b then
          if isContinuation c then some (assemble (a.toNat % 16) [b, c]) :: segments r₂
          else none :: segments (c :: r₂)
        else none :: segments (b :: c :: r₂)
      | [b] => if isSecond a b then [none] else none :: segments [b]
      | [] => [none]
    else if 0xF0 ≤ a && a ≤ 0xF4 then
      match r with
      | b :: c :: d :: r₃ =>
        if isSecond a b then
          if isContinuation c then
            if isContinuation d then some (assemble (a.toNat % 8) [b, c, d]) :: segments r₃
            else none :: segments (d :: r₃)
          else none :: segments (c :: d :: r₃)
        else none :: segments (b :: c :: d :: r₃)
      | [b, c] =>
        if isSecond a b then
          if isContinuation c then [none] else none :: segments [c]
        else none :: segments [b, c]
      | [b] => if isSecond a b then [none] else none :: segments [b]
      | [] => [none]
    else none :: segments r

/-- Reads bytes as text, with U+FFFD for every ill-formed run. -/
def decodeLossy (bytes : List UInt8) : List Char :=
  (segments bytes).map (·.getD replacement)

/-- Reads bytes as text, or fails on the first ill-formed run. -/
def decode? (bytes : List UInt8) : Option (List Char) :=
  (segments bytes).mapM id

/-! ## What is wrong with bytes -/

/-- The number of bytes of the sequences with a given lead byte; none for a byte that leads none. -/
def sequenceLength? (a : UInt8) : Option Nat :=
  if a < 0x80 then some 1
  else if 0xC2 ≤ a && a ≤ 0xDF then some 2
  else if 0xE0 ≤ a && a ≤ 0xEF then some 3
  else if 0xF0 ≤ a && a ≤ 0xF4 then some 4
  else none

/-- How many bytes go on with a sequence of `n` bytes behind its lead byte. -/
def continuing (a : UInt8) (n : Nat) : List UInt8 → Nat
  | [] => 0
  | b :: r => if isSecond a b then 1 + ((r.take (n - 2)).takeWhile isContinuation).length else 0

/-- The wording of a fault from `start` on, in a run of `n` bytes that begins with `a`. -/
def faultMessage (a : UInt8) (start n : Nat) (reason : String) : String :=
  let hexadecimal := String.ofList (Nat.toDigits 16 a.toNat)
  let place :=
    if n = 1 then "byte 0x" ++ hexadecimal ++ " in position " ++ toString start
    else "bytes in position " ++ toString start ++ "-" ++ toString (start + n - 1)
  "'utf-8' codec can't decode " ++ place ++ ": " ++ reason

/-- What is wrong with the first ill-formed run of bytes. -/
def fault? (bytes : List UInt8) : Option String :=
  let start := (encode (((segments bytes).takeWhile Option.isSome).filterMap id)).length
  match bytes.drop start with
  | [] => none
  | a :: r =>
    some <|
      match sequenceLength? a with
      | none => faultMessage a start 1 "invalid start byte"
      | some n =>
        let found := 1 + continuing a n r
        faultMessage a start found
          (if found = r.length + 1 then "unexpected end of data" else "invalid continuation byte")

end CallFlow.Text.Utf8
