import RecordMapper.Number.Binary64
import RecordMapper.Number.Shortest

/-! # Decimal texts of numbers

How a double is written: its shortest decimal, either positionally or with an exponent. The two
texts in use differ in a few decisions, which a `NumberStyle` records.
-/

namespace RecordMapper

/-- The decisions that a decimal text depends on. -/
structure NumberStyle where
  /-- Whether a whole number in positional notation keeps `.0`. -/
  keepsPoint : Bool
  /-- The magnitudes `10 ^ (fst - 1) ≤ x < 10 ^ snd` that are written positionally; without bounds
  all are. Others are written with an exponent. -/
  positional : Option (Int × Int)

namespace NumberStyle

/-- Plain numbers never show an exponent and whole ones no point. -/
def plain : NumberStyle := ⟨false, none⟩

/-- Under inspection a number is recognisable as a fraction, and magnitudes below `0.0001` or from
`10 ^ 16` on show an exponent. -/
def inspected : NumberStyle := ⟨true, some (-3, 16)⟩

/-- Positional notation of the digits, whose first one stands `top` places left of the point. -/
def positionalText (style : NumberStyle) (digits : List Char) (top : Int) : List Char :=
  if top ≤ 0 then
    ['0', '.'] ++ List.replicate (-top).toNat '0' ++ digits
  else if digits.length ≤ top.toNat then
    digits ++ List.replicate (top.toNat - digits.length) '0' ++
      (if style.keepsPoint then ['.', '0'] else [])
  else digits.take top.toNat ++ ['.'] ++ digits.drop top.toNat

/-- Notation with an exponent: one digit before the point, no point without further digits. -/
def exponentText (digits : List Char) (top : Int) : List Char :=
  let fraction := digits.drop 1
  digits.take 1 ++ (if fraction.isEmpty then [] else '.' :: fraction) ++ ['e'] ++
    (toString (top - 1)).toList

/-- The text of the positive number `m * 2 ^ q`. -/
def magnitudeText (style : NumberStyle) (m : Nat) (q : Int) : List Char :=
  let decimal := Decimal.shortest m q
  let digits := Nat.toDigits 10 decimal.digits
  let top := decimal.exponent + digits.length
  match style.positional with
  | some (low, high) =>
    if low ≤ top ∧ top ≤ high then style.positionalText digits top else exponentText digits top
  | none => style.positionalText digits top

/-- The text of a double. -/
def text (style : NumberStyle) (x : Binary64) : String :=
  match x.datum with
  | .nan => "NaN"
  | .infinite negative => if negative then "-inf" else "inf"
  | .finite negative m q =>
    let magnitude := if m = 0 then style.positionalText ['0'] 1 else style.magnitudeText m q
    String.ofList (if negative then '-' :: magnitude else magnitude)

end NumberStyle

end RecordMapper
