import RecordMapper.Config.DatabaseConfig

/-! # Configuration documents

A configuration can be read from a JSON document: an object with the text `adapter` and possibly the
text `database`, in which members of other names are passed over, or an array of these texts in this
order. A member that is known must not come twice. What is passed over must still be well formed.

Every reader takes the text that is left and returns, with what it has read, the text after it.
-/

namespace RecordMapper.Document

/-- Drops the blanks that may stand between the signs of a document. -/
def skip (cs : List Char) : List Char :=
  cs.dropWhile fun c => c == ' ' || c == '\t' || c == '\n' || c == '\r'

/-! ## Texts -/

/-- The number that four hexadecimal digits stand for. -/
def fourDigits (a b c d : Char) : Option Nat := Url.number? 16 [a, b, c, d]

/-- The character that a letter after a backslash stands for. -/
def escaped? (c : Char) : Option Char :=
  match c with
  | '"' => some '"'
  | '\\' => some '\\'
  | '/' => some '/'
  | 'b' => some '\x08'
  | 'f' => some '\x0c'
  | 'n' => some '\n'
  | 'r' => some '\r'
  | 't' => some '\t'
  | _ => none

/-- Reads a text up to the quote that closes it. Characters above `0xffff` can be given as a pair of
numbers, a high one and a low one; neither can stand alone. -/
def readText : List Char → Option (List Char × List Char)
  | '"' :: rest => some ([], rest)
  | '\\' :: 'u' :: a :: b :: c :: d :: rest =>
    match fourDigits a b c d with
    | none => none
    | some n =>
      if 0xdc00 ≤ n ∧ n ≤ 0xdfff then none
      else if 0xd800 ≤ n ∧ n ≤ 0xdbff then
        match rest with
        | '\\' :: 'u' :: e :: f :: g :: h :: rest =>
          match fourDigits e f g h with
          | none => none
          | some low =>
            if 0xdc00 ≤ low ∧ low ≤ 0xdfff then
              (readText rest).map fun (text, after) =>
                (Char.ofNat (0x10000 + (n - 0xd800) * 0x400 + (low - 0xdc00)) :: text, after)
            else none
        | _ => none
      else (readText rest).map fun (text, after) => (Char.ofNat n :: text, after)
  | '\\' :: letter :: rest =>
    match escaped? letter with
    | none => none
    | some c => (readText rest).map fun (text, after) => (c :: text, after)
  | c :: rest =>
    if c.toNat < 0x20 ∨ c = '\\' then none
    else (readText rest).map fun (text, after) => (c :: text, after)
  | [] => none

/-- Passes over a text up to the quote that closes it; here lone halves of pairs are let through. -/
def passText : List Char → Option (List Char)
  | '"' :: rest => some rest
  | '\\' :: 'u' :: a :: b :: c :: d :: rest =>
    if (fourDigits a b c d).isSome then passText rest else none
  | '\\' :: letter :: rest => if (escaped? letter).isSome then passText rest else none
  | c :: rest => if c.toNat < 0x20 ∨ c = '\\' then none else passText rest
  | [] => none

/-! ## Passing over values -/

/-- Passes over at least one digit. -/
def passDigits (cs : List Char) : Option (List Char) :=
  match cs with
  | c :: rest => if c.isDigit then some (rest.dropWhile Char.isDigit) else none
  | [] => none

/-- Passes over the fraction of a number, if there is one. -/
def passFraction (cs : List Char) : Option (List Char) :=
  match cs with
  | '.' :: rest => passDigits rest
  | _ => some cs

/-- Passes over the exponent of a number, if there is one. -/
def passExponent (cs : List Char) : Option (List Char) :=
  match cs with
  | c :: rest =>
    if c = 'e' ∨ c = 'E' then
      match rest with
      | sign :: more => if sign = '+' ∨ sign = '-' then passDigits more else passDigits rest
      | [] => none
    else some cs
  | [] => some cs

/-- Passes over a number without its sign: no zero goes before other digits. -/
def passNumber (cs : List Char) : Option (List Char) := do
  let rest ← match cs with
    | '0' :: rest => if rest.head?.any Char.isDigit then none else some rest
    | _ => passDigits cs
  passExponent (← passFraction rest)

/-- Passes over a value that has no parts. -/
def passPlain (cs : List Char) : Option (List Char) :=
  match cs with
  | '"' :: rest => passText rest
  | 't' :: 'r' :: 'u' :: 'e' :: rest => some rest
  | 'f' :: 'a' :: 'l' :: 's' :: 'e' :: rest => some rest
  | 'n' :: 'u' :: 'l' :: 'l' :: rest => some rest
  | '-' :: rest => passNumber rest
  | _ => passNumber cs

/-- What may come next while values are passed over. -/
inductive Expected
  /-- A value. -/
  | value
  /-- A value or the end of the array that has just begun. -/
  | firstItem
  /-- A member or the end of the object that has just begun. -/
  | firstMember
  /-- A member. -/
  | member
  /-- A comma or the end of the innermost bracket. -/
  | more

/-- Passes over a value. `brackets` are the closing signs of the brackets that are open, the
innermost first. Every step uses up a character, so the length of the text is enough `fuel`. -/
def passValues : Nat → Expected → List Char → List Char → Option (List Char)
  | 0, _, _, _ => none
  | fuel + 1, expected, brackets, cs =>
    match expected, skip cs, brackets with
    | .value, '[' :: rest, _ => passValues fuel .firstItem (']' :: brackets) rest
    | .value, '\x7b' :: rest, _ => passValues fuel .firstMember ('\x7d' :: brackets) rest
    | .value, rest, _ => (passPlain rest).bind (passValues fuel .more brackets)
    | .firstItem, ']' :: rest, _ :: outer => passValues fuel .more outer rest
    | .firstItem, rest, _ => passValues fuel .value brackets rest
    | .firstMember, '\x7d' :: rest, _ :: outer => passValues fuel .more outer rest
    | .firstMember, rest, _ => passValues fuel .member brackets rest
    | .member, '"' :: rest, _ =>
      match (passText rest).map skip with
      | some (':' :: rest) => passValues fuel .value brackets rest
      | _ => none
    | .member, _, _ => none
    | .more, _, [] => some cs
    | .more, ',' :: rest, close :: _ =>
      passValues fuel (if close = ']' then .value else .member) brackets rest
    | .more, c :: rest, close :: outer =>
      if c = close then passValues fuel .more outer rest else none
    | .more, [], _ :: _ => none

/-- Passes over one value. -/
def passValue (cs : List Char) : Option (List Char) := passValues (2 * cs.length + 2) .value [] cs

/-! ## The configuration -/

/-- Reads a text with its quotes. -/
def readQuoted (cs : List Char) : Option (String × List Char) :=
  match skip cs with
  | '"' :: rest => (readText rest).map fun (text, after) => (String.ofList text, after)
  | _ => none

/-- The members that have been read so far. -/
structure Members where
  /-- The adapter. -/
  adapter? : Option String := none
  /-- The database. -/
  database? : Option String := none

/-- Reads the members of an object from the name of a member on, up to the bracket that closes it.
Every member uses up a character, so the length of the text is enough `fuel`. -/
def readMembers : Nat → Members → List Char → Option (Members × List Char)
  | 0, _, _ => none
  | fuel + 1, m, cs =>
    let next (m : Members) (rest : List Char) : Option (Members × List Char) :=
      match skip rest with
      | ',' :: rest => readMembers fuel m rest
      | '\x7d' :: rest => some (m, rest)
      | _ => none
    match readQuoted cs with
    | none => none
    | some (name, rest) =>
      match skip rest with
      | ':' :: rest =>
        if name = "adapter" then
          if m.adapter?.isSome then none
          else (readQuoted rest).bind fun (text, rest) => next { m with adapter? := some text } rest
        else if name = "database" then
          if m.database?.isSome then none
          else (readQuoted rest).bind fun (text, rest) =>
            next { m with database? := some text } rest
        else (passValue rest).bind (next m)
      | _ => none

/-- Reads an object after its opening bracket. -/
def readObject (cs : List Char) : Option (DatabaseConfig × List Char) :=
  match skip cs with
  | '\x7d' :: _ => none
  | _ => do
    let (m, rest) ← readMembers (cs.length + 1) {} cs
    let adapter ← m.adapter?
    return (⟨adapter, m.database?.getD ""⟩, rest)

/-- Reads an array after its opening bracket. -/
def readArray (cs : List Char) : Option (DatabaseConfig × List Char) := do
  let (adapter, rest) ← readQuoted cs
  match skip rest with
  | ']' :: rest => return (⟨adapter, ""⟩, rest)
  | ',' :: rest =>
    let (database, rest) ← readQuoted rest
    match skip rest with
    | ']' :: rest => return (⟨adapter, database⟩, rest)
    | _ => none
  | _ => none

/-- The configuration that a document gives, if it gives one. -/
def config? (document : String) : Option DatabaseConfig := do
  let (config, rest) ← match skip document.toList with
    | '\x7b' :: rest => readObject rest
    | '[' :: rest => readArray rest
    | _ => none
  if (skip rest).isEmpty then some config else none

end RecordMapper.Document
