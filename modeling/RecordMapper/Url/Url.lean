import RecordMapper.Url.Host
import RecordMapper.Url.Path

/-! # URLs

Absolute URLs as they name databases: a scheme, then either an authority with a path or a path
alone, then possibly a query and a fragment. Reading a URL normalises it; `Url.text` writes the
normal form.
-/

namespace RecordMapper

namespace Url

/-- Who is addressed. -/
structure Authority where
  /-- The user information, encoded, with the sign that ends it; empty if there is none. -/
  userinfo : String
  /-- The host; empty if there is none. -/
  host : String
  /-- The port, if it is not the one that the scheme implies. -/
  port? : Option Nat
deriving DecidableEq

end Url

/-- A URL in normal form. -/
structure Url where
  /-- The scheme, in lower case. -/
  scheme : String
  /-- Who is addressed, if two slashes say so. -/
  authority? : Option Url.Authority
  /-- Whether the path is one text without slashes that mean anything. -/
  isOpaque : Bool
  /-- The path. -/
  path : String
  /-- The query, without its question mark. -/
  query? : Option String
  /-- The fragment, without its number sign. -/
  fragment? : Option String
deriving DecidableEq

namespace Url

/-- The host, if there is one. -/
def host? (u : Url) : Option String :=
  match u.authority? with
  | some a => if a.host.isEmpty then none else some a.host
  | none => none

/-- The text of an authority. -/
def Authority.text (a : Authority) : String :=
  "//" ++ a.userinfo ++ a.host ++ match a.port? with
    | some port => ":" ++ toString port
    | none => ""

/-- The text of a URL. A path that begins with two slashes is kept from looking like an authority.
-/
def text (u : Url) : String :=
  u.scheme ++ ":" ++
  (match u.authority? with
    | some a => a.text
    | none => if u.path.startsWith "//" then "/." else "") ++
  u.path ++
  (match u.query? with
    | some query => "?" ++ query
    | none => "") ++
  (match u.fragment? with
    | some fragment => "#" ++ fragment
    | none => "")

/-! ## Reading the parts -/

/-- How the scheme shapes what follows it. -/
inductive SchemeKind
  /-- Files. -/
  | file
  /-- A scheme with a host and a port of its own. -/
  | special (port : Nat)
  /-- Any other scheme. -/
  | other
deriving DecidableEq

/-- The kind of a scheme. -/
def SchemeKind.of (scheme : String) : SchemeKind :=
  match scheme with
  | "file" => .file
  | "http" | "ws" => .special 80
  | "https" | "wss" => .special 443
  | "ftp" => .special 21
  | _ => .other

/-- Whether a character can stand in a scheme after its first letter. -/
def isSchemeCharacter (c : Char) : Bool := c.isAlphanum || c == '+' || c == '-' || c == '.'

/-- The scheme, in lower case, and what follows its colon. -/
def readScheme (cs : List Char) : Option (String × List Char) :=
  let scheme := (cs.takeWhile (· != ':')).filter (! isIgnored ·)
  match scheme, cs.dropWhile (· != ':') with
  | first :: _, _ :: rest =>
    if first.isAlpha && scheme.all isSchemeCharacter then
      some (String.ofList (scheme.map Char.toLower), rest)
    else none
  | _, _ => none

/-- Whether a character ends an authority. -/
def endsAuthority (special : Bool) (c : Char) : Bool :=
  c == '/' || c == '?' || c == '#' || (special && c == '\\')

/-- What stands before and after the last `@`, if there is one. -/
def splitAtSign (cs : List Char) : Option (List Char × List Char) :=
  let backwards := cs.reverse
  match backwards.dropWhile (· != '@') with
  | [] => none
  | _ :: before => some (before.reverse, (backwards.takeWhile (· != '@')).reverse)

/-- The encoded user information with the sign that ends it; nothing if user and password are empty.
-/
def userinfoText (cs : List Char) : List Char :=
  let user := cs.takeWhile (· != ':')
  let password := (cs.dropWhile (· != ':')).drop 1
  let shown := encode userinfoSet user ++
    (if password.isEmpty then [] else ':' :: encode userinfoSet password)
  if shown.isEmpty then [] else shown ++ ['@']

/-- Cuts off the host: it ends at a colon outside brackets. -/
def takeHost (bracket : Bool) : List Char → List Char × List Char
  | [] => ([], [])
  | c :: cs =>
    if c = ':' ∧ !bracket then ([], c :: cs)
    else
      let inside := if c = '[' then true else if c = ']' then false else bracket
      let (host, rest) := takeHost inside cs
      (c :: host, rest)

/-- The port in front of what follows the authority; a backslash ends it under any scheme. -/
def readPort (implied : Option Nat) (cs : List Char) : Except Fault (Option Nat × List Char) :=
  let digits := cs.takeWhile Char.isDigit
  let rest := cs.dropWhile Char.isDigit
  match number? 10 digits, rest.head?.all (· == '\\') with
  | some port, true =>
    if 65535 < port then .error .invalidPort
    else .ok (if digits.isEmpty || some port = implied then none else some port, rest)
  | _, _ => .error .invalidPort

/-- The authority, and what follows it. -/
def readAuthority (kind : SchemeKind) (cs : List Char) : Except Fault (Authority × List Char) := do
  let special := kind != .other
  let before := cs.takeWhile (! endsAuthority special ·)
  let after := cs.dropWhile (! endsAuthority special ·)
  let (userinfo, hostAndPort) := (splitAtSign before).getD ([], before)
  let signFirst := (splitAtSign before).any (·.1.isEmpty)
  if signFirst && hostAndPort.isEmpty && !after.isEmpty then throw .emptyHost
  let shown := userinfoText userinfo
  let (hostText, portText) := takeHost false hostAndPort
  if special && hostText.isEmpty then throw .emptyHost
  let host ← if special then domainHost hostText else opaqueHost hostText
  if host.isEmpty && !portText.isEmpty then throw .emptyHost
  let implied := match kind with
    | .special port => some port
    | _ => none
  let (port?, rest) ←
    if portText.isEmpty then pure (none, []) else readPort implied (portText.drop 1)
  if host.isEmpty && !shown.isEmpty then throw .emptyHost
  return (⟨String.ofList shown, String.ofList host, port?⟩, rest ++ after)

/-- Whether a character ends a path. -/
def endsPath (c : Char) : Bool := c == '?' || c == '#'

/-- The query and the fragment at the end of a URL. -/
def readEnd (special : Bool) (cs : List Char) : Option String × Option String :=
  let fragment (cs : List Char) := String.ofList (encode fragmentSet cs)
  match cs with
  | '?' :: rest =>
    let query := rest.takeWhile (· != '#')
    let set := if special then specialQuerySet else querySet
    (some (String.ofList (encode set query)),
      match rest.dropWhile (· != '#') with
      | _ :: after => some (fragment after)
      | [] => none)
  | '#' :: rest => (none, some (fragment rest))
  | _ => (none, none)

/-- Puts a URL together from the parts that are read and what stands from its path on. -/
def finish (scheme : String) (authority? : Option Authority) (special isOpaque : Bool)
    (path : List Char → List Char) (cs : List Char) : Url :=
  let (query?, fragment?) := readEnd special (cs.dropWhile (! endsPath ·))
  { scheme, authority?, isOpaque, path := String.ofList (path (cs.takeWhile (! endsPath ·))),
    query?, fragment? }

/-- The path after an authority. It begins with a slash unless it is empty, and under special
schemes it is never empty. -/
def pathAfterAuthority (special : Bool) (cs : List Char) : List Char :=
  match cs with
  | [] => if special then ['/'] else []
  | c :: rest =>
    if special then readPath .special ['/'] (if c = '/' ∨ c = '\\' then rest else cs)
    else if c = '/' then readPath .plain [] cs
    else readPath .plain ['/'] cs

/-- The URL of a file, from what stands from its path on; the path begins with `start`. A drive
leaves the host empty. -/
def finishFile (host : String) (start cs : List Char) : Url :=
  let (path, hasDrive) := readFilePath start (cs.takeWhile (! endsPath ·))
  let (query?, fragment?) := readEnd true ((cs.dropWhile (! endsPath ·)).filter (! isIgnored ·))
  { scheme := "file", authority? := some ⟨"", if hasDrive then "" else host, none⟩,
    isOpaque := false, path := String.ofList path, query?, fragment? }

/-- Reads what follows the two slashes of a file. A host that is not there, the local host and a
drive in the place of a host leave the host empty. -/
def readFileHost (cs : List Char) : Except Fault Url := do
  let hostText := (cs.takeWhile (! endsAuthority true ·)).filter (! isIgnored ·)
  let after := cs.dropWhile (! endsAuthority true ·)
  if isDrive hostText then return finishFile "" ['/'] cs
  else if hostText.isEmpty then return finishFile "" ['/'] after
  else
    let host ← domainHost hostText
    if host = "localhost".toList then return finishFile "" ['/'] after
    else
      return finishFile (String.ofList host) ['/']
        (if after.head?.any PathKind.file.isSlash then after.drop 1 else after)

/-- Reads what follows the scheme of a file. -/
def readFile (cs : List Char) : Except Fault Url :=
  match cs.dropWhile isIgnored with
  | a :: rest =>
    if PathKind.file.isSlash a then
      match rest.dropWhile isIgnored with
      | b :: after =>
        if PathKind.file.isSlash b then readFileHost after
        else .ok (finishFile "" [] (a :: rest))
      | [] => .ok (finishFile "" [] [a])
    else .ok (finishFile "" ['/'] cs)
  | [] => .ok (finishFile "" ['/'] [])

/-- Reads what follows a scheme. -/
def readAfterScheme (scheme : String) (cs : List Char) : Except Fault Url :=
  let counted := cs.filter (! isIgnored ·)
  match SchemeKind.of scheme with
  | .file => readFile cs
  | .special port => do
    let (authority, rest) ← readAuthority (.special port)
      (counted.dropWhile PathKind.special.isSlash)
    return finish scheme (some authority) true false (pathAfterAuthority true) rest
  | .other =>
    match counted with
    | '/' :: '/' :: rest => do
      let (authority, rest) ← readAuthority .other rest
      return finish scheme (some authority) false false (pathAfterAuthority false) rest
    | '/' :: rest => .ok (finish scheme none false false (readPath .plain ['/']) rest)
    | _ => .ok (finish scheme none false true (encode controlSet) counted)

/-- Drops controls and blanks at both ends. -/
def trimEdges (cs : List Char) : List Char :=
  let isEdge (c : Char) := c.toNat ≤ 0x20
  ((cs.dropWhile isEdge).reverse.dropWhile isEdge).reverse

/-- Reads a URL. -/
def parse (s : String) : Except Fault Url :=
  match readScheme (trimEdges s.toList) with
  | some (scheme, rest) => readAfterScheme scheme rest
  | none => .error .relative

end Url

end RecordMapper
