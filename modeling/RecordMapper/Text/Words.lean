import RecordMapper.Text.Alphanumeric
import RecordMapper.Text.LetterCase

/-! # The words of a name

A name is spelled in many ways (`BookAuthor`, `book-author`, `HTTPServer`); its words are what the
spellings have in common. Characters that are neither letters nor numbers separate words. Inside a
run of letters and numbers a word ends before an upper-case letter that follows a lower-case one,
and before the last upper-case letter of several that a lower-case letter follows.
-/

namespace RecordMapper.Text

/-- The case of the letter that was seen last in the word at hand. -/
inductive LastCase
  /-- The word holds no cased letter yet. -/
  | uncased
  /-- The last cased letter is lower case. -/
  | lower
  /-- The last cased letter is upper case. -/
  | upper
deriving DecidableEq

/-- The last case after one more character; an uncased one changes nothing. -/
def LastCase.next (case : LastCase) (c : Char) : LastCase :=
  if isLowercase c then .lower else if isUppercase c then .upper else case

/-- Cuts a run of letters and numbers into words. `word` holds the characters of the word at hand,
the newest first, and `case` the case of its last cased letter. -/
def cutWords : LastCase → List Char → List Char → List (List Char)
  | _, [], [] => []
  | _, word, [] => [word.reverse]
  | _, word, [c] => [(c :: word).reverse]
  | case, word, c :: following :: rest =>
    if case.next c = .lower ∧ isUppercase following then
      (c :: word).reverse :: cutWords .uncased [] (following :: rest)
    else if case = .upper ∧ isUppercase c ∧ isLowercase following then
      word.reverse :: cutWords .uncased [c] (following :: rest)
    else
      cutWords (case.next c) (c :: word) (following :: rest)

/-- The maximal runs of characters with the property `p`. `run` holds the run at hand, newest first.
-/
def runs (p : Char → Bool) : List Char → List Char → List (List Char)
  | [], [] => []
  | run, [] => [run.reverse]
  | run, c :: cs =>
    if p c then runs p (c :: run) cs
    else if run.isEmpty then runs p [] cs
    else run.reverse :: runs p [] cs

/-- A word in lower case. A capital sigma that ends the word takes its final form. -/
def lowerWord : List Char → List Char
  | [] => []
  | ['Σ'] => ['ς']
  | c :: cs => lowerForm c ++ lowerWord cs

/-- The words of a text, in lower case. -/
def words (cs : List Char) : List (List Char) :=
  ((runs isAlphanumeric [] cs).flatMap (cutWords .uncased [])).map lowerWord

end RecordMapper.Text
