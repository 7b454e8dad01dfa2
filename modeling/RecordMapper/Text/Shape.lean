import RecordMapper.Text.Quoted

/-! # Inspection texts

How a value shows its parts to someone who inspects it: a name with its fields or arguments, a list,
a map, or a plain word. The same shape is written on one line, `Name { field: value }`, or as a
block with one part a line, four blanks deeper at each level and a comma after every part.
-/

namespace RecordMapper.Text

/-- The parts of a value under inspection. -/
inductive Shape
  /-- A word without parts. -/
  | word (text : String)
  /-- A name with arguments. -/
  | call (name : String) (args : List Shape)
  /-- A name with named fields. -/
  | fields (name : String) (fields : List (String × Shape))
  /-- A list. -/
  | list (items : List Shape)
  /-- A map from texts. -/
  | map (entries : List (String × Shape))

namespace Shape

/-- A text in quotes, as a literal. -/
def text (s : String) : Shape := .word (quote s)

/-- A text in quotes, as a phrase. -/
def phrase (s : String) : Shape := .word (quotePhrase s)

/-- A truth value. -/
def bool (b : Bool) : Shape := .word (if b then "true" else "false")

/-- A value that may be missing. -/
def option : Option Shape → Shape
  | none => .word "None"
  | some shape => .call "Some" [shape]

/-- A list of texts. -/
def texts (items : List String) : Shape := .list (items.map text)

/-! ## On one line -/

mutual

/-- The shape on one line. -/
def line : Shape → String
  | .word text => text
  | .call name args => name ++ "(" ++ ", ".intercalate (lines args) ++ ")"
  | .fields name parts => name ++ " \x7b " ++ ", ".intercalate (fieldLines parts) ++ " \x7d"
  | .list items => "[" ++ ", ".intercalate (lines items) ++ "]"
  | .map entries => "\x7b" ++ ", ".intercalate (entryLines entries) ++ "\x7d"

/-- The shapes of a list, each on one line. -/
def lines : List Shape → List String
  | [] => []
  | shape :: shapes => shape.line :: lines shapes

/-- The fields of a shape, each on one line. -/
def fieldLines : List (String × Shape) → List String
  | [] => []
  | (name, shape) :: parts => (name ++ ": " ++ shape.line) :: fieldLines parts

/-- The entries of a map, each on one line. -/
def entryLines : List (String × Shape) → List String
  | [] => []
  | (name, shape) :: parts => (quote name ++ ": " ++ shape.line) :: entryLines parts

end

/-! ## As a block -/

/-- Opens a bracket, puts every part on a line of its own and closes the bracket at the given depth.
-/
def bracketed (depth : Nat) (opening closing : String) (parts : List String) : String :=
  let indent (n : Nat) := String.ofList (List.replicate (4 * n) ' ')
  if parts.isEmpty then opening ++ closing
  else opening ++ "\n" ++ String.join (parts.map fun part => indent (depth + 1) ++ part ++ ",\n") ++
    indent depth ++ closing

mutual

/-- The shape as a block whose first line stands at the given depth. -/
def blockAt (depth : Nat) : Shape → String
  | .word text => text
  | .call name args => name ++ bracketed depth "(" ")" (blocks (depth + 1) args)
  | .fields name parts => name ++ bracketed depth " \x7b" "\x7d" (fieldBlocks (depth + 1) parts)
  | .list items => bracketed depth "[" "]" (blocks (depth + 1) items)
  | .map entries => bracketed depth "\x7b" "\x7d" (entryBlocks (depth + 1) entries)

/-- The shapes of a list as blocks. -/
def blocks (depth : Nat) : List Shape → List String
  | [] => []
  | shape :: shapes => shape.blockAt depth :: blocks depth shapes

/-- The fields of a shape as blocks. -/
def fieldBlocks (depth : Nat) : List (String × Shape) → List String
  | [] => []
  | (name, shape) :: parts => (name ++ ": " ++ shape.blockAt depth) :: fieldBlocks depth parts

/-- The entries of a map as blocks. -/
def entryBlocks (depth : Nat) : List (String × Shape) → List String
  | [] => []
  | (name, shape) :: parts => (quote name ++ ": " ++ shape.blockAt depth) :: entryBlocks depth parts

end

/-- The shape as a block. -/
def block (shape : Shape) : String := shape.blockAt 0

end Shape

end RecordMapper.Text
