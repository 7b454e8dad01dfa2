/-! # Percent encoding

Each part of a URL has a set of characters that it does not show as they are. Such a character is
written as the bytes of its UTF-8 form, each with a percent sign and two hexadecimal digits. A
percent sign itself stays, so that what is encoded already is not encoded again.
-/

namespace RecordMapper.Url

/-- Controls and everything outside ASCII; all the other sets contain these. -/
def controlSet (c : Char) : Bool := c.toNat < 0x20 || 0x7e < c.toNat

/-- What a fragment does not show. -/
def fragmentSet (c : Char) : Bool := controlSet c || " \"<>`".toList.contains c

/-- What a query does not show. -/
def querySet (c : Char) : Bool := controlSet c || " \"#<>".toList.contains c

/-- What a query of a special scheme does not show. -/
def specialQuerySet (c : Char) : Bool := querySet c || c == '\''

/-- What a path does not show. -/
def pathSet (c : Char) : Bool := fragmentSet c || "#?\x7b\x7d".toList.contains c

/-- What the user information does not show. -/
def userinfoSet (c : Char) : Bool := pathSet c || "/:;=@[\\]^|".toList.contains c

/-- A byte as a percent sign and two hexadecimal digits. -/
def encodeByte (b : UInt8) : List Char :=
  ['%', (Nat.digitChar (b.toNat / 16)).toUpper, (Nat.digitChar (b.toNat % 16)).toUpper]

/-- A text with the characters of a set encoded. -/
def encode (set : Char → Bool) (cs : List Char) : List Char :=
  cs.flatMap fun c => if set c then (String.utf8EncodeChar c).flatMap encodeByte else [c]

/-- A text without characters of the set stays as it is. -/
theorem encode_eq_self {set : Char → Bool} {cs : List Char} (h : ∀ c ∈ cs, set c = false) :
    encode set cs = cs := by
  induction cs with
  | nil => rfl
  | cons c cs ih =>
    have hc : set c = false := h c (by simp)
    have hcs := ih fun x hx => h x (by simp [hx])
    unfold encode at hcs ⊢
    simp [hc, hcs]

end RecordMapper.Url
