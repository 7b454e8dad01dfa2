import RecordMapper.Text.CombiningClass
import RecordMapper.Text.Mark

/-! # Joining letters

In some scripts letters join their neighbours. A joiner makes letters join or keeps them from it and
is not seen itself, so a label may contain one only where it makes a difference that can be seen:
behind a sign that takes the vowel from a consonant, or, if it keeps letters apart, between two that
would join. Nonspacing marks in between do not count.
-/

namespace RecordMapper.Url.Domain

open RecordMapper.Text

/-- The sides on which a letter joins others, in the order of writing. -/
inductive Joining
  /-- It joins no letter. -/
  | neither
  /-- It joins the letter before it. -/
  | back
  /-- It joins the letter after it. -/
  | ahead
  /-- It joins both. -/
  | both
deriving DecidableEq

/-- Where the joining of letters changes. It is given for what labels are made of, marks apart. -/
def joiningChanges : List (Nat × Joining) := [
  (0x620, .both), (0x621, .neither), (0x622, .back), (0x626, .both), (0x627, .back),
  (0x628, .both), (0x629, .back), (0x62a, .both), (0x62f, .back), (0x633, .both),
  (0x640, .neither), (0x641, .both), (0x648, .back), (0x649, .both), (0x660, .neither),
  (0x66e, .both), (0x671, .back), (0x674, .neither), (0x679, .both), (0x688, .back),
  (0x69a, .both), (0x6c0, .back), (0x6c1, .both), (0x6c3, .back), (0x6cc, .both), (0x6cd, .back),
  (0x6ce, .both), (0x6cf, .back), (0x6d0, .both), (0x6d2, .back), (0x6d4, .neither),
  (0x6d5, .back), (0x6de, .neither), (0x6ee, .back), (0x6f0, .neither), (0x6fa, .both),
  (0x6fd, .neither), (0x6ff, .both), (0x700, .neither), (0x710, .back), (0x712, .both),
  (0x715, .back), (0x71a, .both), (0x71e, .back), (0x71f, .both), (0x728, .back), (0x729, .both),
  (0x72a, .back), (0x72b, .both), (0x72c, .back), (0x72d, .both), (0x72f, .back), (0x74e, .both),
  (0x759, .back), (0x75c, .both), (0x76b, .back), (0x76d, .both), (0x771, .back), (0x772, .both),
  (0x773, .back), (0x775, .both), (0x778, .back), (0x77a, .both), (0x780, .neither),
  (0x7ca, .both), (0x7f4, .neither), (0x840, .back), (0x841, .both), (0x846, .back),
  (0x848, .both), (0x849, .back), (0x84a, .both), (0x854, .back), (0x855, .both), (0x856, .back),
  (0x85e, .neither), (0x860, .both), (0x861, .neither), (0x862, .both), (0x866, .neither),
  (0x867, .back), (0x868, .both), (0x869, .back), (0x883, .neither), (0x886, .both),
  (0x887, .neither), (0x889, .both), (0x88e, .back), (0x88f, .both), (0x8aa, .back),
  (0x8ad, .neither), (0x8ae, .back), (0x8af, .both), (0x8b1, .back), (0x8b3, .both),
  (0x8b9, .back), (0x8ba, .both), (0x8c9, .neither), (0x1807, .both), (0x1808, .neither),
  (0x1820, .both), (0x1880, .neither), (0x1887, .both), (0x18b0, .neither), (0xa840, .both),
  (0xa872, .ahead), (0xa873, .neither), (0x10ac0, .both), (0x10ac5, .back), (0x10ac6, .neither),
  (0x10ac7, .back), (0x10ac8, .neither), (0x10ac9, .back), (0x10acb, .neither), (0x10acd, .ahead),
  (0x10ace, .back), (0x10ad3, .both), (0x10ad7, .ahead), (0x10ad8, .both), (0x10add, .back),
  (0x10ade, .both), (0x10ae1, .back), (0x10ae2, .neither), (0x10ae4, .back), (0x10aeb, .both),
  (0x10aef, .back), (0x10af0, .neither), (0x10b80, .both), (0x10b81, .back), (0x10b82, .both),
  (0x10b83, .back), (0x10b86, .both), (0x10b89, .back), (0x10b8a, .both), (0x10b8c, .back),
  (0x10b8d, .both), (0x10b8e, .back), (0x10b90, .both), (0x10b91, .back), (0x10b99, .neither),
  (0x10ba9, .back), (0x10bad, .both), (0x10baf, .neither), (0x10d00, .ahead), (0x10d01, .both),
  (0x10d22, .back), (0x10d23, .both), (0x10d30, .neither), (0x10ec2, .back), (0x10ec3, .both),
  (0x10ec5, .neither), (0x10ec6, .both), (0x10ed0, .neither), (0x10f30, .both), (0x10f33, .back),
  (0x10f34, .both), (0x10f45, .neither), (0x10f51, .both), (0x10f54, .back), (0x10f55, .neither),
  (0x10f70, .both), (0x10f74, .back), (0x10f76, .both), (0x10f86, .neither), (0x10fb0, .both),
  (0x10fb1, .neither), (0x10fb2, .both), (0x10fb4, .back), (0x10fb7, .neither), (0x10fb8, .both),
  (0x10fb9, .back), (0x10fbb, .both), (0x10fbd, .back), (0x10fbe, .both), (0x10fc0, .neither),
  (0x10fc1, .both), (0x10fc2, .back), (0x10fc4, .both), (0x10fc5, .neither), (0x10fc9, .back),
  (0x10fca, .both), (0x10fcb, .ahead), (0x10fe0, .neither), (0x1e922, .both), (0x1e950, .neither)]

/-- How a letter joins others. -/
def joining (c : Char) : Joining := valueAt .neither joiningChanges c.toNat

/-- Whether letters join across a character. -/
def isTransparent (c : Char) : Bool := isNonspacingMark c || c == Char.ofNat 0x1e94b

/-- Whether the first letter of a text, the transparent characters apart, joins on one of the given
sides. -/
def firstJoins (sides : List Joining) (cs : List Char) : Bool :=
  (cs.dropWhile isTransparent).head?.any fun c => sides.contains (joining c)

/-- The sign that keeps letters apart. -/
def nonjoiner : Char := '\u200c'

/-- Whether a character is a joiner. -/
def isJoiner (c : Char) : Bool := c == nonjoiner || c == '\u200d'

/-- Whether a character takes the vowel from the consonant before it. -/
def isVowelKiller (c : Char) : Bool := combiningClass c == 9

/-- Whether a joiner may stand between two texts; the first is given newest first. -/
def mayJoin (joiner : Char) (before after : List Char) : Bool :=
  before.head?.any isVowelKiller ||
    (joiner == nonjoiner && firstJoins [.ahead, .both] before && firstJoins [.back, .both] after)

/-- Whether all joiners of a text stand where they may. `before` is what stands in front of it,
newest first. -/
def joinersFit (before : List Char) : List Char → Bool
  | [] => true
  | c :: cs => (!isJoiner c || mayJoin c before cs) && joinersFit (c :: before) cs

end RecordMapper.Url.Domain
