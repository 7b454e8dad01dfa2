import RecordMapper.Text.Pattern

/-! # Inflection rules

A rule changes the ending of a word: it has a pattern for the ending and a replacement built from
fixed text and the groups of the match. Of several rules the last one whose pattern occurs in the
word applies.
-/

namespace RecordMapper.Inflection

open Text

/-- A part of a replacement. -/
inductive Piece
  /-- Fixed text. -/
  | text (s : String)
  /-- The text of a group of the match; group 0 is the whole match, and only groups that took part
  in the match are counted. A group that is not there adds nothing. -/
  | group (index : Nat)

/-- The text that a piece stands for in a match with the given groups. -/
def Piece.expand (groups : List (List Char)) : Piece → List Char
  | .text s => s.toList
  | .group index => groups.getD index []

/-- A rule for the ending of a word. -/
structure Rule where
  /-- The ending. -/
  pattern : Pattern
  /-- What the match is replaced by. -/
  replacement : List Piece

namespace Rule

/-- The word with the first match replaced, if the pattern occurs in it. -/
def inflect? (rule : Rule) (word : List Char) : Option (List Char) :=
  (rule.pattern.search word).map fun found =>
    found.before ++ rule.replacement.flatMap (Piece.expand found.groups) ++ found.after

/-- Applies the last rule that fits; without one the word stays. -/
def applyLast (rules : List Rule) (word : List Char) : List Char :=
  (rules.reverse.findSome? fun rule => rule.inflect? word).getD word

/-- A rule that takes off an ending: the pattern must reach the end of the word. -/
def ending (pattern : Pattern) (replacement : List Piece) : Rule :=
  ⟨pattern ++ .textEnd, replacement⟩

/-- A rule that leaves words with the given ending as they are. -/
def keep (pattern : Pattern) : Rule := ending pattern [.group 0]

end Rule

end RecordMapper.Inflection
