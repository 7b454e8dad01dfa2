/-! # Raw conditions

A raw condition is a piece of SQL in which every question mark outside a quoted literal stands for
an argument. A literal opens at a single or double quote and runs to the next quote of its kind, or
to the end of the fragment.
-/

namespace RecordMapper.Fragment

/-- Puts a character in front of the first piece. -/
def glue (c : Char) : List (List Char) → List (List Char)
  | [] => [[c]]
  | piece :: pieces => (c :: piece) :: pieces

/-- The quote that is open after the character `c`, given the one open before it. -/
def openQuote : Option Char → Char → Option Char
  | none, c => if c = '\'' ∨ c = '"' then some c else none
  | some quote, c => if c = quote then none else some quote

/-- Cuts a fragment at the question marks outside literals. There is one piece more than there are
such marks. -/
def split : Option Char → List Char → List (List Char)
  | _, [] => [[]]
  | quote, c :: cs =>
    if quote = none ∧ c = '?' then [] :: split none cs
    else glue c (split (openQuote quote c) cs)

/-- The pieces of a fragment between the places of its arguments. -/
def pieces (fragment : String) : List String := (split none fragment.toList).map String.ofList

/-- The number of arguments that a fragment takes. -/
def placeholders (fragment : String) : Nat := (pieces fragment).length - 1

/-! ## Identifiers -/

/-- Whether a text is an identifier: an ASCII letter or an underscore, then letters, digits and
underscores. -/
def isIdentifier : List Char → Bool
  | [] => false
  | c :: cs => (c.isAlpha || c == '_') && cs.all fun x => x.isAlphanum || x == '_'

/-! ## Counting pieces -/

theorem split_ne_nil (quote : Option Char) (cs : List Char) : split quote cs ≠ [] := by
  cases cs with
  | nil => simp [split]
  | cons c cs =>
    simp only [split]
    split
    · simp
    · cases split (openQuote quote c) cs <;> simp [glue]

/-- A fragment has one piece more than it takes arguments. -/
theorem length_pieces (fragment : String) :
    (pieces fragment).length = placeholders fragment + 1 := by
  have h : (pieces fragment).length ≠ 0 := by simp [pieces, split_ne_nil]
  simp only [placeholders]
  omega

end RecordMapper.Fragment
