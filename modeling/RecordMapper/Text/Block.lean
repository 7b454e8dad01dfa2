/-! # Blocks of characters

A table that gives every character of a stretch another one is kept as the code point of the first
and the text of all the others.
-/

namespace RecordMapper.Text

/-- The character that the blocks give for a character, if it lies in one of them. -/
def inBlocks? : List (Nat × String) → Char → Option Char
  | [], _ => none
  | (first, text) :: blocks, c =>
    if first ≤ c.toNat then text.toList[c.toNat - first]? <|> inBlocks? blocks c
    else none

end RecordMapper.Text
