import RecordMapper.Text.Split
import RecordMapper.Url.Domain
import RecordMapper.Url.Encoding

/-! # Hosts

The host of a URL is an address of IP version 6 in brackets or a name. The name belongs to the
scheme and is kept as it is, unless the scheme is special: then it is a domain, in lower case, or an
address of IP version 4.
-/

namespace RecordMapper.Url

open RecordMapper.Text (splitAt)

/-- Why a text is no URL. -/
inductive Fault
  /-- There is no scheme. -/
  | relative
  /-- There is no host where one is needed. -/
  | emptyHost
  /-- The port is no number up to 65535. -/
  | invalidPort
  /-- The host ends in a number but is no address of IP version 4. -/
  | invalidIpv4
  /-- The host is in brackets but is no address of IP version 6. -/
  | invalidIpv6
  /-- The host contains a character that no host contains. -/
  | invalidHostCharacter
  /-- The host is no domain. -/
  | invalidDomain
deriving DecidableEq

/-- The wording of a fault. -/
def Fault.message : Fault → String
  | relative => "relative URL without a base"
  | emptyHost => "empty host"
  | invalidPort => "invalid port number"
  | invalidIpv4 => "invalid IPv4 address"
  | invalidIpv6 => "invalid IPv6 address"
  | invalidHostCharacter => "invalid domain character"
  | invalidDomain => "invalid international domain name"

/-- The value of a digit in some base up to sixteen. -/
def digit? (base : Nat) (c : Char) : Option Nat :=
  let value :=
    if '0' ≤ c ∧ c ≤ '9' then c.toNat - '0'.toNat
    else if 'a' ≤ c ∧ c ≤ 'f' then c.toNat - 'a'.toNat + 10
    else if 'A' ≤ c ∧ c ≤ 'F' then c.toNat - 'A'.toNat + 10
    else 16
  if value < base then some value else none

/-- The number that the digits stand for. -/
def number? (base : Nat) (cs : List Char) : Option Nat :=
  cs.foldl (fun acc c => acc.bind fun n => (digit? base c).map (base * n + ·)) (some 0)

/-! ## Addresses of IP version 6 -/

/-- A number up to 255 without leading zeros. -/
def octet? (cs : List Char) : Option Nat :=
  match cs with
  | [] => none
  | '0' :: _ :: _ => none
  | _ => (number? 10 cs).filter (· ≤ 255)

/-- The two groups that four octets in decimal notation stand for. -/
def embeddedGroups? (cs : List Char) : Option (List Nat) :=
  match (splitAt '.' cs).mapM octet? with
  | some [a, b, c, d] => some [a * 256 + b, c * 256 + d]
  | _ => none

/-- Groups of up to four hexadecimal digits, the last one possibly in the form of four octets. -/
def groups? : List (List Char) → Option (List Nat)
  | [] => some []
  | [last] =>
    if last.contains '.' then embeddedGroups? last
    else if 1 ≤ last.length ∧ last.length ≤ 4 then (number? 16 last).map ([·])
    else none
  | group :: rest =>
    if 1 ≤ group.length ∧ group.length ≤ 4 then do
      return (← number? 16 group) :: (← groups? rest)
    else none

/-- Cuts a text at its first pair of colons. -/
def splitAtGap : List Char → Option (List Char × List Char)
  | [] => none
  | ':' :: ':' :: rest => some ([], rest)
  | c :: cs => (splitAtGap cs).map fun (before, after) => (c :: before, after)

/-- The groups on one side of a gap; there may be none. -/
def side? (cs : List Char) : Option (List Nat) :=
  if cs.isEmpty then some [] else groups? (splitAt ':' cs)

/-- The eight groups of an address. A gap stands for all the groups that are not given. The octet
form can only come at the very end. -/
def ipv6? (cs : List Char) : Option (List Nat) :=
  match splitAtGap cs with
  | none => (groups? (splitAt ':' cs)).filter (·.length = 8)
  | some (before, after) =>
    if before.contains '.' then none
    else do
      let left ← side? before
      let right ← side? after
      if left.length + right.length ≤ 7 then
        return left ++ List.replicate (8 - left.length - right.length) 0 ++ right
      else none

/-- The length of the run of zeros at the start. -/
def zeroRun : List Nat → Nat
  | 0 :: rest => zeroRun rest + 1
  | _ => 0

/-- Place and length of the first among the longest runs of zeros. -/
def longestZeros (index : Nat) : List Nat → Nat × Nat
  | [] => (index, 0)
  | group :: rest =>
    let here := zeroRun (group :: rest)
    let later := longestZeros (index + 1) rest
    if later.2 ≤ here then (index, here) else later

/-- Groups in hexadecimal notation with colons between. -/
def groupsText (groups : List Nat) : List Char :=
  [':'].intercalate (groups.map (Nat.toDigits 16))

/-- The text of an address: the first among the longest runs of at least two zeros is left out. -/
def ipv6Text (groups : List Nat) : List Char :=
  let (place, length) := longestZeros 0 groups
  if length < 2 then groupsText groups
  else groupsText (groups.take place) ++ [':', ':'] ++ groupsText (groups.drop (place + length))

/-- The bracketed form of the address in a bracketed host. -/
def bracketed (cs : List Char) : Except Fault (List Char) :=
  if cs.getLast? = some ']' then
    match ipv6? (cs.drop 1).dropLast with
    | some groups => .ok ('[' :: ipv6Text groups ++ [']'])
    | none => .error .invalidIpv6
  else .error .invalidIpv6

/-! ## Names -/

/-- The characters that no host contains. -/
def forbiddenInHost (c : Char) : Bool := "\x00\t\n\r #/:<>?@[\\]^|".toList.contains c

/-- The host of a scheme that is not special. -/
def opaqueHost (cs : List Char) : Except Fault (List Char) :=
  if cs.head? = some '[' then bracketed cs
  else if cs.any forbiddenInHost then .error .invalidHostCharacter
  else .ok (encode controlSet cs)

/-! ## Domains and addresses of IP version 4 -/

/-- A number in decimal notation, octal after a zero, hexadecimal after `0x`. -/
def addressNumber? (cs : List Char) : Option Nat :=
  match cs with
  | [] => none
  | '0' :: 'x' :: rest => number? 16 rest
  | '0' :: 'X' :: rest => number? 16 rest
  | '0' :: rest => number? 8 rest
  | _ => number? 10 cs

/-- Whether the last part of a domain, a final dot apart, is a number. -/
def endsInNumber (domain : List Char) : Bool :=
  let last := match (splitAt '.' domain).reverse with
    | [] :: part :: _ => part
    | part :: _ => part
    | [] => []
  (!last.isEmpty && last.all Char.isDigit) || (addressNumber? last).isSome

/-- The value of the numbers of an address: each but the last is one byte, the last fills the rest.
-/
def addressValue? (numbers : List Nat) : Option Nat :=
  let leading := numbers.dropLast
  let last := numbers.getLastD 0
  if numbers.isEmpty || 4 < numbers.length || leading.any (255 < ·) ||
      Nat.pow 256 (4 - leading.length) ≤ last
  then none
  else
    some ((leading.zip [Nat.pow 256 3, Nat.pow 256 2, 256]).foldl (fun value (n, weight) => value + n * weight) last)

/-- The address that a domain ending in a number stands for, as four numbers with dots between. -/
def ipv4 (domain : List Char) : Except Fault (List Char) :=
  let parts := splitAt '.' domain
  let parts := if parts.getLast? = some [] then parts.dropLast else parts
  match (parts.mapM addressNumber?).bind addressValue? with
  | some value =>
    .ok (['.'].intercalate ([Nat.pow 256 3, Nat.pow 256 2, 256, 1].map fun weight =>
      Nat.toDigits 10 (value / weight % 256)))
  | none => .error .invalidIpv4

/-- The byte that two hexadecimal digits stand for. -/
def hexByte? (a b : UInt8) : Option UInt8 :=
  match digit? 16 (Char.ofNat a.toNat), digit? 16 (Char.ofNat b.toNat) with
  | some high, some low => some (16 * high + low).toUInt8
  | _, _ => none

/-- Replaces every percent sign that two hexadecimal digits follow by the byte they stand for. -/
def decodeBytes : List UInt8 → List UInt8
  | c :: a :: b :: rest =>
    match if c = '%'.toUInt8 then hexByte? a b else none with
    | some byte => byte :: decodeBytes rest
    | none => c :: decodeBytes (a :: b :: rest)
  | bytes => bytes

/-- The text that is percent-encoded, if its bytes are one. -/
def decode? (cs : List Char) : Option (List Char) :=
  (String.fromUTF8? ⟨(decodeBytes (cs.flatMap String.utf8EncodeChar)).toArray⟩).map String.toList

/-- The characters that no domain in ASCII contains. -/
def forbiddenInDomain (c : Char) : Bool := controlSet c || forbiddenInHost c || c == '%'

/-- The host of a special scheme. -/
def domainHost (cs : List Char) : Except Fault (List Char) :=
  if cs.head? = some '[' then bracketed cs
  else
    match (decode? cs).bind Domain.ascii? with
    | none => .error .invalidDomain
    | some domain =>
      if domain.any forbiddenInDomain then .error .invalidDomain
      else if domain.isEmpty then .error .emptyHost
      else if endsInNumber domain then ipv4 domain
      else .ok domain

end RecordMapper.Url
