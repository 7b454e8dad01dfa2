import RecordMapper.Inflection.English
import RecordMapper.Text.Words

/-! # Names of models and associations

A name is known by its words in lower case, so that `BookAuthor`, `book author` and `book_author`
are one name. Tables carry the plural of a name and foreign keys its singular; only the last word
changes.
-/

namespace RecordMapper

/-- A name, as the list of its words in lower case. -/
structure Name where
  /-- The words. -/
  parts : List String
deriving DecidableEq

namespace Name

/-- The name that a text spells. -/
def ofText (s : String) : Name := ⟨(Text.words s.toList).map String.ofList⟩

/-- Whether there are no words. -/
def isEmpty (name : Name) : Bool := name.parts.isEmpty

/-- The words with underscores between. -/
def snakeCase (name : Name) : String := "_".intercalate name.parts

/-- The words with underscores between, the last one inflected. -/
def inflectLast (inflect : String → String) (name : Name) : String :=
  match name.parts.getLast? with
  | none => ""
  | some last => "_".intercalate (name.parts.dropLast ++ [inflect last])

/-- The name with its last word in the singular. -/
def singular (name : Name) : String := name.inflectLast Inflection.singularize

/-- The name with its last word in the plural. -/
def plural (name : Name) : String := name.inflectLast Inflection.pluralize

/-- The attribute by which other records refer to a record of this name. -/
def foreignKey (name : Name) : String := name.singular ++ "_id"

end Name

end RecordMapper
