import RecordMapper.Data.OrderedMap
import RecordMapper.Number.Notation
import RecordMapper.Text.Shape

/-! # Values

What an attribute of a record holds and what a statement binds to a parameter: nothing, a truth
value, a 64-bit integer, a double or a text.
-/

namespace RecordMapper

open Text

/-- A value of an attribute or a parameter. -/
inductive Value
  /-- No value. -/
  | null
  /-- A truth value. -/
  | bool (b : Bool)
  /-- A 64-bit signed integer. -/
  | int (n : Int64)
  /-- A double-precision number. -/
  | float (x : Binary64)
  /-- A text. -/
  | text (s : String)
deriving DecidableEq

/-- Values under names, in the order in which the names came in. -/
abbrev Values := OrderedMap Value

namespace Value

instance : Inhabited Value := ⟨null⟩

/-- Whether there is no value. -/
def isNull : Value → Bool
  | null => true
  | _ => false

/-- The truth value, if it is one. -/
def toBool? : Value → Option Bool
  | bool b => some b
  | _ => none

/-- The integer, if it is one. -/
def toInt? : Value → Option Int64
  | int n => some n
  | _ => none

/-- The double, if it is a number; an integer gives the nearest double. -/
def toFloat? : Value → Option Binary64
  | float x => some x
  | int n => some (Binary64.ofInt64 n)
  | _ => none

/-- The text, if it is one. -/
def toText? : Value → Option String
  | text s => some s
  | _ => none

/-- Equality of values of one kind, doubles being compared as numbers. -/
def same : Value → Value → Bool
  | float x, float y => x.sameNumber y
  | v, w => v = w

/-! ## Texts of values -/

/-- The text that messages show. -/
def display : Value → String
  | null => "nil"
  | bool b => if b then "true" else "false"
  | int n => toString n.toInt
  | float x => NumberStyle.plain.text x
  | text s => quote s

/-- The shape under inspection, which tells the kinds apart. -/
def shape : Value → Shape
  | null => .word "Null"
  | bool b => .call "Bool" [.bool b]
  | int n => .call "I64" [.word (toString n.toInt)]
  | float x => .call "F64" [.word (NumberStyle.inspected.text x)]
  | text s => .call "String" [.text s]

end Value

/-- The shape of values under names. -/
def OrderedMap.shape (values : OrderedMap Value) : Shape :=
  .fields "Values" [("entries", .map (values.entries.map fun entry => (entry.1, entry.2.shape)))]

end RecordMapper
