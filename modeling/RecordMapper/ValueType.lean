import RecordMapper.Value

/-! # Types of attributes

An attribute declares a type, and every value that goes in or comes back is cast to it. A cast never
loses anything: an integer is accepted as a double, a double as an integer only where it denotes one
in range, and the integers 0 and 1 as truth values, because some databases have no others. The
missing value belongs to every type.
-/

namespace RecordMapper

/-- The type of an attribute. -/
inductive ValueType
  /-- 64-bit integers. -/
  | integer
  /-- Double-precision numbers. -/
  | float
  /-- Texts. -/
  | string
  /-- Truth values. -/
  | boolean
deriving DecidableEq, Inhabited

namespace ValueType

/-- The name of the type. -/
def name : ValueType → String
  | integer => "integer"
  | float => "float"
  | string => "string"
  | boolean => "boolean"

/-- The type with the given name or short name, in either case. -/
def ofName? (s : String) : Option ValueType :=
  match s.toLower with
  | "int" | "integer" => some integer
  | "float" | "real" => some float
  | "string" | "text" => some string
  | "bool" | "boolean" => some boolean
  | _ => none

/-- The 64-bit integer that a double denotes, if it denotes one. As a double the greatest of these
integers is `2 ^ 63`, which is out of range itself. -/
def wholeNumber? (x : Binary64) : Option Int64 :=
  if x.isWhole && (x.compare? (.ofInt64 .minValue)).any (·.isGE) &&
      x.compare? (.ofInt64 .maxValue) == some .lt then
    some x.toInt64
  else none

/-- The value as one of the type, if it can be one. -/
def cast? : ValueType → Value → Option Value
  | _, .null => some .null
  | integer, .int n => some (.int n)
  | integer, .float x => (wholeNumber? x).map .int
  | float, .float x => some (.float x)
  | float, .int n => some (.float (Binary64.ofInt64 n))
  | string, .text s => some (.text s)
  | boolean, .bool b => some (.bool b)
  | boolean, .int n =>
    if n = 0 then some (.bool false) else if n = 1 then some (.bool true) else none
  | _, _ => none

end ValueType

/-- The type that a value belongs to. The missing value belongs to no type in particular. -/
def Value.type? : Value → Option ValueType
  | .null => none
  | .bool _ => some .boolean
  | .int _ => some .integer
  | .float _ => some .float
  | .text _ => some .string

/-! ## What casting does -/

namespace ValueType

/-- The missing value is cast to itself. -/
@[simp] theorem cast?_null (t : ValueType) : t.cast? .null = some .null := by cases t <;> rfl

/-- A cast value is missing or of the type it was cast to. -/
theorem type?_of_cast? {t : ValueType} {v w : Value} (h : t.cast? v = some w) :
    w = .null ∨ w.type? = some t := by
  cases t <;> cases v <;>
    simp only [cast?, Option.map_eq_some_iff, reduceCtorEq, Option.some.injEq] at h
  case boolean.int n =>
    split at h
    · cases h; exact .inr rfl
    · split at h
      · cases h; exact .inr rfl
      · cases h
  case integer.float x => obtain ⟨n, _, rfl⟩ := h; exact .inr rfl
  all_goals cases h
  all_goals first | exact .inl rfl | exact .inr rfl

end ValueType

end RecordMapper
