import RecordMapper.Url.Encoding

/-! # Paths of URLs

A path is read segment by segment into its final text. A segment of one dot adds nothing and a
segment of two dots takes the last segment back, in plain or in encoded spelling. In the path of a
file the first segment can name a drive, a letter with a colon or a bar.

Tabs and line ends do not count, wherever they stand.
-/

namespace RecordMapper.Url

/-- Whether a character does not count: a tab or a line end. -/
def isIgnored (c : Char) : Bool := c == '\t' || c == '\n' || c == '\r'

/-- Which rules a path follows. -/
inductive PathKind
  /-- A slash ends a segment. -/
  | plain
  /-- A backslash is a slash. -/
  | special
  /-- A backslash is a slash, and there are drives. -/
  | file
deriving DecidableEq

/-- Whether a character ends a segment. -/
def PathKind.isSlash (kind : PathKind) (c : Char) : Bool :=
  c == '/' || (kind != .plain && c == '\\')

/-- A path as far as it is read. -/
structure Path where
  /-- The final text of what is read, the newest character first. -/
  backwards : List Char
  /-- Whether the first segment was found to be a drive. -/
  hasDrive : Bool := false
deriving DecidableEq

/-- The text of a path. -/
def Path.text (path : Path) : List Char := path.backwards.reverse

/-- Whether a path is only its first slash. -/
def Path.isRoot (path : Path) : Bool := path.backwards == ['/']

/-- Whether a segment spells one dot. -/
def isSingleDot (segment : List Char) : Bool :=
  [".", "%2e"].contains (String.ofList (segment.map Char.toLower))

/-- Whether a segment spells two dots. -/
def isDoubleDot (segment : List Char) : Bool :=
  ["..", ".%2e", "%2e.", "%2e%2e"].contains (String.ofList (segment.map Char.toLower))

/-- The letter of a segment that is a letter and a colon or a bar, as the drives of some systems
are written. -/
def driveLetter? : List Char → Option Char
  | [letter, mark] => if letter.isAlpha && (mark == ':' || mark == '|') then some letter else none
  | _ => none

/-- Whether a segment spells a drive. -/
def isDrive (segment : List Char) : Bool := (driveLetter? segment).isSome

/-- The text after the last slash of a text that is given newest first. -/
def lastSegment (backwards : List Char) : List Char := (backwards.takeWhile (· != '/')).reverse

/-- The path after a segment of two dots: without its last segment. A drive is not taken back
through its slash, and for files not at all. -/
def ascend (kind : PathKind) (backwards : List Char) : List Char :=
  let parent := backwards.drop 1
  let backwards :=
    if backwards.head? = some '/' && parent.contains '/' && !isDrive (lastSegment parent) then parent
    else backwards
  if kind = .file ∧ backwards.head? = some ':' ∧ isDrive (lastSegment backwards) then backwards
  else backwards.dropWhile (· != '/')

/-- The path with one more segment, which a slash follows or not. A drive right behind the first
slash is written with a colon. -/
def Path.add (kind : PathKind) (path : Path) (segment : List Char) (slash : Bool) : Path :=
  let ending := if slash then ['/'] else []
  let endsInSlash (backwards : List Char) := backwards.head? == some '/'
  if isDoubleDot segment then
    let shorter := ascend kind path.backwards
    { path with backwards := if endsInSlash shorter then shorter else ending ++ shorter }
  else if isSingleDot segment then
    if endsInSlash path.backwards then path else { path with backwards := '/' :: path.backwards }
  else
    match if kind = .file ∧ path.isRoot then driveLetter? segment else none with
    | some letter => ⟨ending ++ [':', letter] ++ path.backwards, true⟩
    | none => { path with backwards := ending ++ segment.reverse ++ path.backwards }

/-- Away from files every segment that spells no dots is put behind the text. -/
theorem Path.text_add {kind : PathKind} {path : Path} {segment : List Char} {slash : Bool}
    (hk : kind ≠ .file) (hd : isSingleDot segment = false) (hdd : isDoubleDot segment = false) :
    (path.add kind segment slash).text = path.text ++ segment ++ (if slash then ['/'] else []) := by
  cases slash <;> simp [Path.add, Path.text, hk, hd, hdd]

/-- The letter of a drive with a colon that is all there is of the first segment of a file. The
segment is given newest first. -/
def openDrive? (kind : PathKind) (path : Path) : (segment : List Char) → Option Char
  | [':', letter] => if kind = .file ∧ path.isRoot then driveLetter? [letter, ':'] else none
  | _ => none

/-- Whether the segment at hand goes on in what is left. -/
def goesOn (kind : PathKind) (cs : List Char) : Bool :=
  (cs.dropWhile isIgnored).head?.any (! kind.isSlash ·)

/-- Reads a path to its end. `segment` is the segment at hand, the newest character first. When
something that does not count stands between a drive and the rest of its segment, the drive gets
its slash and the rest is taken as it is, whatever it spells. -/
def Path.read (kind : PathKind) (path : Path) (segment : List Char) : List Char → Path
  | [] => path.add kind (encode pathSet segment.reverse) false
  | c :: cs =>
    if isIgnored c then
      match if goesOn kind cs then openDrive? kind path segment else none with
      | some letter =>
        Path.read kind { path with backwards := letter :: path.backwards } ['/', ':'] cs
      | none => Path.read kind path segment cs
    else if kind.isSlash c then
      Path.read kind (path.add kind (encode pathSet segment.reverse) true) [] cs
    else Path.read kind path (c :: segment) cs

/-- The path that begins with the text `start` and goes on with `cs`. -/
def readPath (kind : PathKind) (start cs : List Char) : List Char :=
  (Path.read kind ⟨start.reverse, false⟩ [] cs).text

/-- The path of a file, with empty segments in front of it dropped, and whether it has a drive. -/
def readFilePath (start cs : List Char) : List Char × Bool :=
  let path := Path.read .file ⟨start.reverse, false⟩ [] cs
  ('/' :: path.text.dropWhile (· == '/'), path.hasDrive)

end RecordMapper.Url
