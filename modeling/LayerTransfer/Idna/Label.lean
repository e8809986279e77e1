import LayerTransfer.Idna.Composition
import LayerTransfer.Idna.Folding
import LayerTransfer.Idna.Punycode
import LayerTransfer.Unicode.Direction
import LayerTransfer.Unicode.Joining

namespace LayerTransfer.Idna.Label

open LayerTransfer.Unicode

def isAscii (l : List Char) : Bool := l.all (·.toNat < 128)

def isJoiner (c : Char) : Bool := c.toNat == 0x200c || c.toNat == 0x200d

def meets (p : Char → Bool) (cs : List Char) : Bool :=
  match cs.dropWhile Joining.isTransparent with
  | [] => false
  | c :: _ => p c

/-- Whether a joiner may stand between two texts, of which the first is in reverse. It may follow a
sign that silences a vowel, and letters that would join may be kept apart. -/
def allowsJoiner (c : Char) (before after : List Char) : Bool :=
  match before with
  | [] => false
  | d :: _ =>
    Composition.markClass d == 9 ||
      (c.toNat == 0x200c && meets Joining.joinsAfter before && meets Joining.joinsBefore after)

def joinersFit (before : List Char) : List Char → Bool
  | [] => true
  | c :: r => (!isJoiner c || allowsJoiner c before r) && joinersFit (c :: before) r

def lastDirection? (ds : List Direction) : Option Direction :=
  (ds.reverse.dropWhile (· == .mark)).head?

def isOriented (l : List Char) : Bool :=
  let ds := l.map Direction.ofChar
  let last := lastDirection? ds
  match ds with
  | [] => true
  | .left :: _ =>
    !ds.contains .right && !ds.contains .arabic && (last == some .left || last == some .european)
  | .right :: _ =>
    !ds.contains .left && !(ds.contains .european && ds.contains .arabic) && last != some .neutral
  | _ => false

def isRightToLeft (c : Char) : Bool :=
  match Direction.ofChar c with
  | .right | .arabic => true
  | _ => false

def startsWithMark : List Char → Bool
  | [] => false
  | c :: _ => isMark c

def isWellFormed (l : List Char) : Bool :=
  isAscii l || (!startsWithMark l && joinersFit [] l && l.length ≤ 1000)

def marker : List Char := "xn--".toList

/-- The text of a label that is spelled in ASCII: at least one more character, all of them folded
and the whole composed. -/
def unmark? (digits : List Char) : Option (List Char) :=
  if digits.isEmpty || digits.getLast? == some '-' || 2000 < digits.length || !isAscii digits then
    none
  else
    (Punycode.decode? digits).bind fun l =>
      if l.all Folding.isFolded && Composition.composed l == l then some l else none

def read? (l : List Char) : Option (List Char) :=
  (if marker.isPrefixOf l then unmark? (l.drop 4) else some l).bind fun l =>
    if isWellFormed l then some l else none

def spell (l : List Char) : List Char :=
  if isAscii l then l else marker ++ Punycode.encode l

end LayerTransfer.Idna.Label
