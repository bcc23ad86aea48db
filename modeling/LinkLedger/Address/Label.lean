import LinkLedger.Unicode.Bidi
import LinkLedger.Unicode.CombiningClass
import LinkLedger.Unicode.Joining
import LinkLedger.Unicode.Mark

/-!
# What a label of a host name may hold

Three conditions on the labels of a prepared host name: none begins with a combining mark, the two
zero-width joiners stand only where they change how letters join, and if any label is written from
right to left then all labels keep one direction from their first to their last character.
-/

set_option autoImplicit false

namespace LinkLedger.Address

open LinkLedger.Unicode

/-! ## The joiners -/

/-- The zero-width non-joiner. -/
def nonJoiner : Char := Char.ofNat 0x200C

/-- The zero-width joiner. -/
def joiner : Char := Char.ofNat 0x200D

/-- Whether the character just before, if there is one, is a virama. -/
def afterVirama (before : List Char) : Bool :=
  before.head?.any fun c => combiningClass c == viramaClass

/-- The first joining type that is not passed over. -/
def nextJoining (text : List Char) : JoiningType :=
  ((text.map joiningType).dropWhile (· == .transparent)).headD .none

/-- Whether letters on both sides would join across this place. -/
def joinsAcross (before after : List Char) : Bool :=
  let onLeft := nextJoining before
  let onRight := nextJoining after
  (onLeft == .left || onLeft == .dual) && (onRight == .right || onRight == .dual)

/-- Whether each joiner stands where it may; `before` is the text in front, nearest first. -/
def joinersFit (before : List Char) : List Char → Bool
  | [] => true
  | c :: after =>
    (if c = nonJoiner then afterVirama before || joinsAcross before after
      else if c = joiner then afterVirama before
      else true)
      && joinersFit (c :: before) after

/-! ## Direction -/

/-- Whether a class belongs to text written from right to left. -/
def isRightward (b : BidiClass) : Bool :=
  b == .rightToLeft || b == .arabicLetter || b == .arabicNumber

/-- The classes that may stand in a label of either direction. -/
def isNeutral (b : BidiClass) : Bool :=
  b == .europeanNumber || b == .europeanSeparator || b == .commonSeparator
    || b == .europeanTerminator || b == .otherNeutral || b == .boundaryNeutral
    || b == .nonspacingMark

/-- Whether a label keeps one direction. Marks at its end are passed over. -/
def keepsDirection (label : List Char) : Bool :=
  let classes := label.map bidiClass
  let lastOf := (classes.reverse.dropWhile (· == .nonspacingMark)).headD .leftToRight
  match classes with
  | [] => true
  | .leftToRight :: _ =>
    classes.all (fun b => b == .leftToRight || isNeutral b)
      && (lastOf == .leftToRight || lastOf == .europeanNumber)
  | first :: _ =>
    (first == .rightToLeft || first == .arabicLetter)
      && classes.all (fun b => isRightward b || isNeutral b)
      && (lastOf == .rightToLeft || lastOf == .arabicLetter || lastOf == .europeanNumber
        || lastOf == .arabicNumber)
      && !(classes.contains .europeanNumber && classes.contains .arabicNumber)

/-- Whether some label is written from right to left. -/
def isBidirectional (labels : List (List Char)) : Bool :=
  labels.any fun label => label.any fun c => isRightward (bidiClass c)

/-! ## Together -/

/-- Whether one label holds what it may, direction apart. -/
def isValidLabel (label : List Char) : Bool :=
  !(label.head?.any isMark) && joinersFit [] label

/-- Whether the labels of a name agree on their directions. -/
def directionsAgree (labels : List (List Char)) : Bool :=
  !isBidirectional labels || labels.all keepsDirection

end LinkLedger.Address
