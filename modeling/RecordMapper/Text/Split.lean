/-! # Cutting a text at a separator

The parts of a text before, between and after the separators. A text without a separator is its only
part.
-/

namespace RecordMapper.Text

/-- Cuts a text at every separator. -/
def splitAt (separator : Char) : List Char → List (List Char)
  | [] => [[]]
  | c :: cs =>
    if c = separator then [] :: splitAt separator cs
    else match splitAt separator cs with
      | [] => [[c]]
      | part :: parts => (c :: part) :: parts

variable {separator : Char} {cs before : List Char}

theorem splitAt_of_notMem (h : separator ∉ cs) : splitAt separator cs = [cs] := by
  induction cs with
  | nil => rfl
  | cons c cs ih =>
    rw [List.mem_cons, not_or] at h
    rw [splitAt, if_neg (Ne.symm h.1), ih h.2]

/-- The first part ends at the first separator, and the others are those of the rest. -/
theorem splitAt_append (h : separator ∉ before) (after : List Char) :
    splitAt separator (before ++ separator :: after) = before :: splitAt separator after := by
  induction before with
  | nil => exact if_pos rfl
  | cons c before ih =>
    rw [List.mem_cons, not_or] at h
    rw [List.cons_append, splitAt, if_neg (Ne.symm h.1), ih h.2]

end RecordMapper.Text
