/-! # Punycode

A text is written in letters, digits and hyphens: first its ASCII characters in their order, then,
after a hyphen, where the others go. They are inserted by rising code point, and for those of one
code point from left to right. Each insertion is a number: how many places are passed over since the
last one, counting through the whole text once for every code point on the way.

The numbers are written in base 36 with the last digit first. A digit below the threshold of its
position ends the number. The thresholds rise from position to position, and where they begin to
rise, the *bias*, is adapted to the size of the numbers so far.
-/

namespace RecordMapper.Url.Domain.Punycode

/-- The base of the numbers. -/
def base : Nat := 36

/-- The threshold of a position with a given bias; positions count in steps of the base. -/
def threshold (bias position : Nat) : Nat :=
  if position ≤ bias then 1 else if bias + 26 ≤ position then 26 else position - bias

theorem threshold_pos (bias position : Nat) : 0 < threshold bias position := by
  unfold threshold
  split
  · omega
  · split <;> omega

/-- The bias that fits numbers of the size `n`, with the steps taken so far. -/
def biasFor (n steps : Nat) : Nat :=
  if 455 < n then biasFor (n / 35) (steps + base) else steps + base * n / (n + 38)
termination_by n
decreasing_by exact Nat.div_lt_self (by omega) (by omega)

/-- The bias after a number, when the text has `length` characters. The first number says less about
the size of the others. -/
def adapt (number length : Nat) (first : Bool) : Nat :=
  let n := if first then number / 700 else number / 2
  biasFor (n + n / length) 0

/-- The bias in front of the first number. -/
def initialBias : Nat := 72

/-- The code point in front of all that are inserted. -/
def initialCode : Nat := 128

/-- Whether a character is among those that come first. -/
def isBasic (c : Char) : Bool := c.toNat < initialCode

/-! ## Writing -/

/-- The character of a digit. -/
def digitChar (digit : Nat) : Char :=
  if digit < 26 then Char.ofNat ('a'.toNat + digit) else Char.ofNat ('0'.toNat + (digit - 26))

/-- The digits of a number from a position on. -/
def numberDigits (bias position n : Nat) : List Char :=
  let t := threshold bias position
  if n < t then [digitChar n]
  else
    digitChar (t + (n - t) % (base - t)) ::
      numberDigits bias (position + base) ((n - t) / (base - t))
termination_by n
decreasing_by
  have := threshold_pos bias position
  exact Nat.lt_of_le_of_lt (Nat.div_le_self _ _) (by omega)

/-- How far the writing of a text is. -/
structure Writing where
  /-- The numbers written so far. -/
  digits : List Char
  /-- How many characters are inserted or basic. -/
  length : Nat
  /-- The number at hand. -/
  number : Nat
  /-- The bias. -/
  bias : Nat
  /-- Whether no number is written yet. -/
  first : Bool

/-- Passes one character of the text on the way to those with the code point `code`. -/
def Writing.pass (code : Nat) (w : Writing) (c : Char) : Writing :=
  if c.toNat < code then { w with number := w.number + 1 }
  else if c.toNat = code then
    { digits := w.digits ++ numberDigits w.bias base w.number, length := w.length + 1, number := 0,
      bias := adapt w.number (w.length + 1) w.first, first := false }
  else w

/-- Inserts the characters of each of the rising `codes` in turn. The text was passed for all code
points below `reached`. -/
def Writing.insert (cs : List Char) (reached : Nat) (w : Writing) : List Nat → Writing
  | [] => w
  | code :: codes =>
    let w := { w with number := w.number + (code - reached) * (w.length + 1) }
    let w := cs.foldl (Writing.pass code) w
    Writing.insert cs (code + 1) { w with number := w.number + 1 } codes

/-- The written form of a text. -/
def encode (cs : List Char) : List Char :=
  let basic := cs.filter isBasic
  let codes := (((cs.filter (! isBasic ·)).map Char.toNat).mergeSort (· ≤ ·)).eraseDups
  let w := Writing.insert cs initialCode ⟨[], basic.length, 0, initialBias, true⟩ codes
  basic ++ (if basic.isEmpty then [] else ['-']) ++ w.digits

/-! ## Reading -/

/-- The digit of a character. -/
def digit? (c : Char) : Option Nat :=
  if 'a' ≤ c ∧ c ≤ 'z' then some (c.toNat - 'a'.toNat)
  else if 'A' ≤ c ∧ c ≤ 'Z' then some (c.toNat - 'A'.toNat)
  else if '0' ≤ c ∧ c ≤ '9' then some (26 + (c.toNat - '0'.toNat))
  else none

/-- How far the reading of a text is. -/
structure Reading where
  /-- The text so far. -/
  text : List Char
  /-- The code point that was inserted last. -/
  code : Nat := initialCode
  /-- The place behind the last insertion. -/
  place : Nat := 0
  /-- The number at hand. -/
  number : Nat := 0
  /-- The position of the next digit. -/
  position : Nat := base
  /-- What the next digit is worth. -/
  weight : Nat := 1
  /-- The bias. -/
  bias : Nat := initialBias

/-- No number of a written text reaches this bound. -/
def bound : Nat := Nat.pow 2 32

/-- Inserts the character that the number at hand stands for. -/
def Reading.insert (r : Reading) (number : Nat) : Option Reading :=
  let length := r.text.length + 1
  let code := r.code + (r.place + number) / length
  let place := (r.place + number) % length
  if code.isValidChar then
    some { text := r.text.insertIdx place (Char.ofNat code), code, place := place + 1,
           bias := adapt number length (r.place == 0) }
  else none

/-- Reads one digit. -/
def Reading.next (r : Reading) (c : Char) : Option Reading :=
  (digit? c).bind fun digit =>
    let t := threshold r.bias r.position
    let number := r.number + digit * r.weight
    let weight := r.weight * (base - t)
    if bound ≤ r.place + number then none
    else if digit < t then r.insert number
    else if bound ≤ weight then none
    else some { r with number, weight, position := r.position + base }

/-- The basic characters of a written text and its digits. A hyphen in front of everything separates
nothing. -/
def splitBasic (cs : List Char) : List Char × List Char :=
  let backwards := cs.reverse
  match (backwards.dropWhile (· != '-')).drop 1 with
  | [] => ([], cs)
  | basic => (basic.reverse, (backwards.takeWhile (· != '-')).reverse)

/-- The text that is written in the given form, if there is one. -/
def decode? (cs : List Char) : Option (List Char) :=
  let (basic, digits) := splitBasic cs
  match digits.foldlM Reading.next { text := basic : Reading } with
  | some r => if r.position = base then some r.text else none
  | none => none

end RecordMapper.Url.Domain.Punycode
