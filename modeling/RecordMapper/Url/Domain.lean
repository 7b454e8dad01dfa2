import RecordMapper.Text.Composed
import RecordMapper.Url.Domain.Direction
import RecordMapper.Url.Domain.Image
import RecordMapper.Url.Domain.Punycode

/-! # Domains

A domain consists of labels with dots between. It can be spelled in any script; its ASCII form is
the same for all spellings that look the same. A label beyond ASCII is written there in Punycode
behind the prefix `xn--`, and can be given in that form too.
-/

namespace RecordMapper.Url.Domain

open RecordMapper.Text

/-- A label in both forms. -/
structure Label where
  /-- The label as it is read. -/
  text : List Char
  /-- The label in ASCII. -/
  ascii : List Char

/-- What a label in Punycode begins with. -/
def marker : List Char := ['x', 'n', '-', '-']

/-- The most characters of a label that is put into Punycode. -/
def maxText : Nat := 1000

/-- The most characters behind the marker of a label in Punycode. -/
def maxDigits : Nat := 2000

/-- Whether a text can be read as a label: it does not begin with a mark, and its joiners stand
where they may. -/
def isReadable (text : List Char) : Bool := !text.head?.any isMark && joinersFit [] text

/-- Whether a text is its own image. -/
def isSettled (text : List Char) : Bool :=
  (textImage? text).any fun image => composed image == text

/-- The label in Punycode whose digits are given. It must not stand for a label in ASCII. -/
def markedLabel? (digits : List Char) : Option Label :=
  if digits.getLast?.all (· == '-') || maxDigits < digits.length then none
  else
    (Punycode.decode? digits).bind fun text =>
      if isSettled text && isReadable text && text.length ≤ maxText then
        some ⟨text, marker ++ digits⟩
      else none

/-- The label with the given text. -/
def plainLabel? (text : List Char) : Option Label :=
  if text.all (·.toNat < 128) then some ⟨text, text⟩
  else if isReadable text && text.length ≤ maxText then
    some ⟨text, marker ++ Punycode.encode text⟩
  else none

/-- The label that a part of a domain gives. -/
def label? (text : List Char) : Option Label :=
  if marker.isPrefixOf text then
    if text.all (·.toNat < 128) then markedLabel? (text.drop marker.length) else none
  else plainLabel? text

/-- Whether labels can stand in one domain: where one of them turns the direction of writing, all
have to be steady. -/
def standTogether (labels : List Label) : Bool :=
  !labels.any (·.text.any turns) || labels.all (isSteady ·.text)

/-- The ASCII form of a domain. -/
def ascii? (domain : List Char) : Option (List Char) :=
  (textImage? domain).bind fun image =>
    ((splitAt '.' (composed image)).mapM label?).bind fun labels =>
      if standTogether labels then some (['.'].intercalate (labels.map (·.ascii))) else none

end RecordMapper.Url.Domain
