import RecordMapper.Text.CombiningClass
import RecordMapper.Text.Composite

/-! # The composed form of a text

Texts that differ only in how their characters are made up have the same composed form. It is found
in three steps: every composite is taken apart, the marks of every character are put into the order
of their combining classes, and whatever can be composed is composed again.
-/

namespace RecordMapper.Text

/-! ## Taking apart -/

/-- What a character stands for; a composite has at most `depth` marks. -/
def takeApart : (depth : Nat) → Char → List Char
  | 0, c => expansion c
  | depth + 1, c =>
    match parts? c with
    | some (base, mark) => takeApart depth base ++ [mark]
    | none => expansion c

/-- The most marks that a composite has. -/
def maxMarks : Nat := 4

/-! ## Putting marks in order -/

/-- Puts a character behind a text, which is given newest first. A mark goes in front of the marks
of higher classes that it finds there. -/
def pushMark (c : Char) : List Char → List Char
  | [] => [c]
  | d :: ds =>
    if 0 < combiningClass c ∧ combiningClass c < combiningClass d then d :: pushMark c ds
    else c :: d :: ds

/-- The text with its marks in order. -/
def orderMarks (cs : List Char) : List Char :=
  (cs.foldl (fun ordered c => pushMark c ordered) []).reverse

/-! ## Composing -/

/-- Whether a character can reach the base before `held`, the marks between them, newest first: it
can unless a mark of the same or a higher class stands in its way. -/
def reaches (c : Char) : List Char → Bool
  | [] => true
  | mark :: _ => combiningClass mark < combiningClass c

/-- Composes a base with what follows it. `held` are the marks that stay, newest first. -/
def composeFrom (base : Char) (held : List Char) : List Char → List Char
  | [] => base :: held.reverse
  | c :: cs =>
    match if reaches c held then composite? base c else none with
    | some composite => composeFrom composite held cs
    | none =>
      if combiningClass c = 0 then base :: held.reverse ++ composeFrom c [] cs
      else composeFrom base (c :: held) cs

/-- Composes a text whose marks are in order. Marks in front of any base stay. -/
def composeMarks (cs : List Char) : List Char :=
  let isBase (c : Char) := combiningClass c == 0
  cs.takeWhile (! isBase ·) ++
    match cs.dropWhile (! isBase ·) with
    | [] => []
    | base :: rest => composeFrom base [] rest

/-- The composed form of a text. -/
def composed (cs : List Char) : List Char :=
  composeMarks (orderMarks (cs.flatMap (takeApart maxMarks)))

end RecordMapper.Text
