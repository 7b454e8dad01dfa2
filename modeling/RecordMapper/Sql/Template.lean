import RecordMapper.Sql.Dialect
import RecordMapper.Value

/-! # SQL templates

The text of a statement has holes for its values. A template is the text with the values in their
holes: reading off the values gives the parameters in order, and reading off the text puts a
placeholder into every hole. So text and parameters cannot drift apart.
-/

namespace RecordMapper

/-- The placeholder for the parameter at the given position, counted from one. -/
def Dialect.placeholder : Dialect → Nat → String
  | .sqlite, position => "?" ++ toString position
  | .postgresql, position => "$" ++ toString position
  | .mysql, _ => "?"

namespace Dialect

@[simp] theorem placeholder_sqlite (position : Nat) :
    placeholder .sqlite position = "?" ++ toString position := rfl

@[simp] theorem placeholder_postgresql (position : Nat) :
    placeholder .postgresql position = "$" ++ toString position := rfl

/-- The parameters are not numbered. -/
@[simp] theorem placeholder_mysql (position : Nat) : placeholder .mysql position = "?" := rfl

end Dialect

namespace Sql

/-- A stretch of text or a hole with its value. -/
inductive Segment
  /-- Text. -/
  | text (s : String)
  /-- A hole for a value. -/
  | hole (value : Value)
deriving DecidableEq

/-- A text with holes. -/
abbrev Template := List Segment

namespace Template

/-- The values in the holes, from left to right. -/
def params : Template → List Value
  | [] => []
  | .text _ :: rest => params rest
  | .hole value :: rest => value :: params rest

/-- The text with placeholders in the holes, when `bound` parameters go before those of the
template. -/
def render (d : Dialect) (bound : Nat) : Template → String
  | [] => ""
  | .text s :: rest => s ++ render d bound rest
  | .hole _ :: rest => d.placeholder (bound + 1) ++ render d (bound + 1) rest

/-- Templates one after the other with a separator between them. -/
def separated (separator : String) (parts : List Template) : Template :=
  [Segment.text separator].intercalate parts

/-! ## Joining templates -/

/-- The parameters of two templates in a row follow each other. -/
theorem params_append (a b : Template) : params (a ++ b) = params a ++ params b := by
  induction a with
  | nil => rfl
  | cons segment a ih => cases segment <;> simp [params, ih]

/-- The second of two templates counts on from the parameters of the first. -/
theorem render_append (d : Dialect) (bound : Nat) (a b : Template) :
    render d bound (a ++ b) = render d bound a ++ render d (bound + (params a).length) b := by
  induction a generalizing bound with
  | nil => simp [render, params]
  | cons segment a ih =>
    cases segment with
    | text s => simp [render, params, ih, String.append_assoc]
    | hole value =>
      simp only [List.cons_append, render, params, ih, String.append_assoc, List.length_cons]
      rw [Nat.add_assoc, Nat.add_comm 1]

end Template

end Sql

end RecordMapper
