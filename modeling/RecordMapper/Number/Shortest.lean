/-! # Shortest decimals

The decimal with the fewest digits among those that a positive number `m * 2 ^ q` is the nearest
binary neighbour of. Around the number lies an interval of reals that round to it; of the decimals
in the interval those with the fewest digits are taken, and of these the nearest to the number, the
greater one of two equally near.
-/

namespace RecordMapper.Decimal

/-- The interval of reals that round to a binary number, in units of `numerator / denominator`: it
reaches from `low` to `high` around `value`. -/
structure Interval where
  /-- The lower end. -/
  low : Nat
  /-- The number itself. -/
  value : Nat
  /-- The upper end. -/
  high : Nat
  /-- What one unit is multiplied by. -/
  numerator : Nat
  /-- What one unit is divided by. -/
  denominator : Nat
  /-- Whether the ends belong to the interval. -/
  closed : Bool

/-- The interval around `m * 2 ^ q`. Its ends are half way to the neighbouring numbers; below the
significand `2 ^ 52` the neighbour is half as far away, unless the exponent is the least one. The
ends belong to it when `m` is even. -/
def Interval.around (m : Nat) (q : Int) : Interval where
  low := if m = Nat.pow 2 52 ∧ -1074 < q then 4 * m - 1 else 4 * m - 2
  value := 4 * m
  high := 4 * m + 2
  numerator := if 0 ≤ q - 2 then Nat.pow 2 (q - 2).toNat else 1
  denominator := if 0 ≤ q - 2 then 1 else Nat.pow 2 (2 - q).toNat
  closed := m % 2 = 0

/-- A decimal `digits * 10 ^ exponent`. -/
structure Digits where
  /-- The digits, read as one whole number. -/
  digits : Nat
  /-- The power of ten of the last digit. -/
  exponent : Int
deriving DecidableEq

/-- The fraction `n / d` of two numbers multiplied by `10 ^ e`, as numerator and denominator. -/
def shiftTen (n d : Nat) (e : Int) : Nat × Nat :=
  if 0 ≤ e then (n * Nat.pow 10 e.toNat, d) else (n, d * Nat.pow 10 (-e).toNat)

/-- The least `j` with `d ≤ n * 10 ^ (j + 1)`, looked for in at most `fuel` steps. -/
def leadingZeros (n d : Nat) : Nat → Nat
  | 0 => 0
  | fuel + 1 => if d ≤ n * 10 then 0 else leadingZeros (n * 10) d fuel + 1

/-- The `e` with `10 ^ (e - 1) ≤ n / d < 10 ^ e`. -/
def decade (n d : Nat) : Int :=
  if d ≤ n then (Nat.toDigits 10 (n / d)).length else -(leadingZeros n d 400 : Int)

/-- Whether `digits * 10 ^ exponent` lies in the interval. -/
def Interval.holds (i : Interval) (c : Digits) : Bool :=
  let (point, scale) := shiftTen (c.digits * i.denominator) i.numerator c.exponent
  if i.closed then i.low * scale ≤ point && point ≤ i.high * scale
  else i.low * scale < point && point < i.high * scale

/-- The decimal in the interval on the grid of `10 ^ exponent`, if there is one: the nearer of the
two neighbours of the number, the upper one on a tie. -/
def Interval.onGrid? (i : Interval) (exponent : Int) : Option Digits :=
  let (n, d) := shiftTen (i.value * i.numerator) i.denominator (-exponent)
  let lower : Digits := ⟨n / d, exponent⟩
  let upper : Digits := ⟨n / d + 1, exponent⟩
  let nearer := if 2 * (n % d) < d then (lower, upper) else (upper, lower)
  if n % d = 0 then some lower
  else if i.holds nearer.1 then some nearer.1
  else if i.holds nearer.2 then some nearer.2
  else none

/-- The first decimal found on the grids of `places`, `places + 1`, … digits, in at most `fuel`
tries. -/
def Interval.search (i : Interval) (top : Int) : Nat → Nat → Option Digits
  | 0, _ => none
  | fuel + 1, places => i.onGrid? (top - places) <|> i.search top fuel (places + 1)

/-- Drops final zeros of a number with at most `fuel` digits. -/
def stripZeros : Nat → Digits → Digits
  | 0, c => c
  | fuel + 1, c =>
    if c.digits ≠ 0 ∧ c.digits % 10 = 0 then stripZeros fuel ⟨c.digits / 10, c.exponent + 1⟩ else c

/-- The shortest decimal of the positive number `m * 2 ^ q`. Seventeen digits always suffice. -/
def shortest (m : Nat) (q : Int) : Digits :=
  let i := Interval.around m q
  let top := decade (i.value * i.numerator) i.denominator
  stripZeros 20 ((i.search top 17 1).getD ⟨m, 0⟩)

end RecordMapper.Decimal
