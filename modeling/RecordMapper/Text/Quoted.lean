import RecordMapper.Text.Graphic

/-! # Quoted text

A text between double quotes on one line. The quote and the backslash are written with a backslash
in front, a tab, a line end, a carriage return and the null character by their letters, and every
other character that does not show by its number in hexadecimal digits.

There are two conventions for what is left. A *literal* writes every character so that it can be
read without its neighbours: a character that extends the one before it is written by its number. A
*phrase* is meant to be read on: only at its start, where there is nothing to extend, is such a
character written by its number. Phrases put a backslash in front of apostrophes too.
-/

namespace RecordMapper.Text

/-- The number of a character between the braces that mark it as one. -/
def numbered (c : Char) : List Char :=
  ['\\', 'u', '\x7b'] ++ Nat.toDigits 16 c.toNat ++ ['\x7d']

/-- The written form of one character between the quotes, given which others are written as they
are. -/
def quoteChar (shows : Char → Bool) (c : Char) : List Char :=
  if c = '\x00' then ['\\', '0']
  else if c = '\t' then ['\\', 't']
  else if c = '\n' then ['\\', 'n']
  else if c = '\r' then ['\\', 'r']
  else if c = '"' then ['\\', '"']
  else if c = '\\' then ['\\', '\\']
  else if shows c then [c]
  else numbered c

/-- A text as a literal. -/
def quote (s : String) : String :=
  String.ofList (['"'] ++ s.toList.flatMap (quoteChar isGraphic) ++ ['"'])

/-- The written form of one character of a phrase. -/
def phraseChar (shows : Char → Bool) (c : Char) : List Char :=
  if c = '\'' then ['\\', '\''] else quoteChar shows c

/-- A text as a phrase. -/
def quotePhrase (s : String) : String :=
  let body := match s.toList with
    | [] => []
    | first :: rest => phraseChar isGraphic first ++ rest.flatMap (phraseChar isVisible)
  String.ofList (['"'] ++ body ++ ['"'])

end RecordMapper.Text
