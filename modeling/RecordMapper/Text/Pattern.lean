import RecordMapper.Text.LetterCase
import RecordMapper.Text.WordCharacter

/-! # Text patterns

Patterns without repetition, as rules about word endings need them. A pattern reads a text from a
position on. Where it can read in several ways the ways are ordered: the left alternative comes
before the right one, and taking an optional part before leaving it out. A search takes the leftmost
position at which the pattern reads anything, and there the first way.

Letters are compared without regard to case.
-/

namespace RecordMapper.Text

/-- What a pattern can read. -/
inductive Pattern
  /-- Nothing. -/
  | empty
  /-- One character with the given property. -/
  | one (p : Char → Bool)
  /-- One pattern after the other. -/
  | seq (first second : Pattern)
  /-- Either pattern, the first one preferred. -/
  | alt (first second : Pattern)
  /-- The pattern or nothing, the pattern preferred. -/
  | optional (part : Pattern)
  /-- The pattern, with the text it reads kept as a group. -/
  | group (part : Pattern)
  /-- The start of the text. -/
  | textStart
  /-- The end of the text. -/
  | textEnd
  /-- A place between a word character and anything else. -/
  | wordEdge

namespace Pattern

instance : Append Pattern := ⟨seq⟩

/-- The character by which letters are compared: the lower-case form, where it is a single one; the
long `ſ` counts as an `s`. -/
def caseKey (c : Char) : Char :=
  if c = '\u017f' then 's'
  else match lowerForm c with
    | [form] => form
    | _ => c

/-- Reads one of the given characters, in either case. -/
def oneOf (chars : String) : Pattern :=
  .one fun c => (chars.toList.map caseKey).contains (caseKey c)

/-- Reads one character that is none of the given ones in either case. -/
def noneOf (chars : String) : Pattern :=
  .one fun c => !(chars.toList.map caseKey).contains (caseKey c)

/-- Reads the given text, in either case. -/
def lit (s : String) : Pattern :=
  s.toList.foldr (fun c rest => .seq (.one fun x => caseKey x == caseKey c) rest) .empty

/-- Reads the first of the patterns that fits. -/
def anyOf : List Pattern → Pattern
  | [] => .one fun _ => false
  | [p] => p
  | p :: ps => .alt p (anyOf ps)

/-- Reads the first of the texts that fits. -/
def anyLit (texts : List String) : Pattern := anyOf (texts.map lit)

/-! ## Reading -/

/-- A place in a text and the groups read on the way to it. -/
structure Cursor where
  /-- The text before the place, the nearest character first. -/
  before : List Char
  /-- The text after the place. -/
  after : List Char
  /-- The groups that took part so far, in the order in which they open. -/
  groups : List (List Char)

/-- Whether the place lies between a word character and anything else. -/
def Cursor.atWordEdge (k : Cursor) : Bool :=
  (k.before.head?.any isWordCharacter) != (k.after.head?.any isWordCharacter)

/-- All ways in which a pattern reads on from a place, the preferred one first. -/
def read : Pattern → Cursor → List Cursor
  | .empty, k => [k]
  | .one p, k =>
    match k.after with
    | c :: cs => if p c then [{ k with before := c :: k.before, after := cs }] else []
    | [] => []
  | .seq first second, k => (first.read k).flatMap second.read
  | .alt first second, k => first.read k ++ second.read k
  | .optional part, k => part.read k ++ [k]
  | .group part, k => (part.read k).map fun done =>
      let text := (done.before.take (done.before.length - k.before.length)).reverse
      { done with groups := k.groups ++ text :: done.groups.drop k.groups.length }
  | .textStart, k => if k.before.isEmpty then [k] else []
  | .textEnd, k => if k.after.isEmpty then [k] else []
  | .wordEdge, k => if k.atWordEdge then [k] else []

/-- A stretch of text that a pattern has read. -/
structure Match where
  /-- The text before the stretch. -/
  before : List Char
  /-- The groups: the whole stretch, then the groups that took part, in the order in which they
  open. -/
  groups : List (List Char)
  /-- The text after the stretch. -/
  after : List Char

/-- The leftmost match at or after a place; `before` is the text before it, nearest character first.
-/
def searchFrom (p : Pattern) (before : List Char) : List Char → Option Match
  | [] => attempt []
  | c :: cs => attempt (c :: cs) <|> searchFrom p (c :: before) cs
where
  /-- The preferred way to read on right here. -/
  attempt (after : List Char) : Option Match :=
    ((p.read ⟨before, after, []⟩).head?).map fun done =>
      let text := (done.before.take (done.before.length - before.length)).reverse
      ⟨before.reverse, text :: done.groups, done.after⟩

/-- The leftmost match in a text. -/
def search (p : Pattern) (text : List Char) : Option Match := p.searchFrom [] text

end Pattern

end RecordMapper.Text
