/-! # Double-precision numbers

A double-precision number is kept as its 64 bits: a sign, eleven bits of exponent, 52 bits of
fraction. What it denotes is computed in whole numbers, so that every statement about it is a
statement about `Nat` and `Int`.
-/

namespace RecordMapper

/-- A double-precision binary floating-point number, given by its bits. -/
structure Binary64 where
  /-- Sign, exponent and fraction, the most significant bit first. -/
  bits : UInt64
deriving DecidableEq

namespace Binary64

instance : Inhabited Binary64 := ⟨⟨0⟩⟩

/-- What the bits denote. -/
inductive Datum
  /-- No number. -/
  | nan
  /-- An infinity. -/
  | infinite (negative : Bool)
  /-- The number `± significand * 2 ^ exponent`. -/
  | finite (negative : Bool) (significand : Nat) (exponent : Int)
deriving DecidableEq

/-- Whether the sign bit is set. -/
def negative (x : Binary64) : Bool := decide (Nat.pow 2 63 ≤ x.bits.toNat)

/-- The exponent field. -/
def exponentField (x : Binary64) : Nat := x.bits.toNat / Nat.pow 2 52 % Nat.pow 2 11

/-- The fraction field. -/
def fractionField (x : Binary64) : Nat := x.bits.toNat % Nat.pow 2 52

/-- What the number denotes. The least exponent field stands for numbers without the leading bit,
the greatest for the infinities and for what is no number. -/
def datum (x : Binary64) : Datum :=
  if x.exponentField = 2047 then
    if x.fractionField = 0 then .infinite x.negative else .nan
  else if x.exponentField = 0 then .finite x.negative x.fractionField (-1074)
  else .finite x.negative (Nat.pow 2 52 + x.fractionField) (x.exponentField - 1075)

/-- Whether this is no number. -/
def isNaN (x : Binary64) : Bool := x.datum = .nan

/-- Equality of numbers: both zeros are equal, and what is no number differs from everything. -/
def sameNumber (x y : Binary64) : Bool :=
  match x.datum, y.datum with
  | .nan, _ => false
  | _, .nan => false
  | .finite _ 0 _, .finite _ 0 _ => true
  | _, _ => x.bits = y.bits

/-! ## Order and whole numbers -/

/-- A whole number with its sign. -/
def signed (negative : Bool) (n : Nat) : Int := if negative then -(n : Int) else n

/-- How two numbers compare; what is no number compares with nothing. -/
def compare? (x y : Binary64) : Option Ordering :=
  match x.datum, y.datum with
  | .nan, _ => none
  | _, .nan => none
  | .infinite negative, .infinite negative' => some (compare negative' negative)
  | .infinite negative, .finite _ _ _ => some (if negative then .lt else .gt)
  | .finite _ _ _, .infinite negative => some (if negative then .gt else .lt)
  | .finite negative m e, .finite negative' m' e' =>
    -- Both are whole multiples of the smaller one of the two powers of two.
    let least := min e e'
    some (compare (signed negative (m * Nat.pow 2 (e - least).toNat))
      (signed negative' (m' * Nat.pow 2 (e' - least).toNat)))

/-- Whether nothing comes after the point. -/
def isWhole (x : Binary64) : Bool :=
  match x.datum with
  | .finite _ m e => m % Nat.pow 2 (-e).toNat = 0
  | _ => false

/-- The 64-bit integer before the point. Beyond the range of these integers it is the end of the
range, and for what is no number it is zero. -/
def toInt64 (x : Binary64) : Int64 :=
  match x.datum with
  | .nan => 0
  | .infinite negative => if negative then .minValue else .maxValue
  | .finite negative m e =>
    .ofIntClamp (signed negative (m * Nat.pow 2 e.toNat / Nat.pow 2 (-e).toNat))

/-! ## Doubles of integers -/

/-- Halves `n` away `k` bits and rounds to the nearest whole number, a tie to the even one. -/
def roundShift (n k : Nat) : Nat :=
  let quotient := n / Nat.pow 2 k
  let twice := 2 * (n % Nat.pow 2 k)
  if Nat.pow 2 k < twice ∨ (twice = Nat.pow 2 k ∧ quotient % 2 = 1) then quotient + 1 else quotient

/-- The bits of the double nearest to a whole number below `2 ^ 64`, a tie going to the even
fraction. A significand that rounds up to the next power of two carries into the exponent field. -/
def magnitudeBits (n : Nat) : Nat :=
  if n = 0 then 0
  else
    let length := n.log2 + 1
    let significand := if length ≤ 53 then n * Nat.pow 2 (53 - length) else roundShift n (length - 53)
    (1022 + length) * Nat.pow 2 52 + significand - Nat.pow 2 52

/-- The double nearest to a 64-bit integer. -/
def ofInt64 (n : Int64) : Binary64 :=
  let magnitude := magnitudeBits n.toInt.natAbs
  ⟨.ofNat (if n.toInt < 0 then Nat.pow 2 63 + magnitude else magnitude)⟩

end Binary64

end RecordMapper
