/-
# Host names

A host name is parts with points between them.  It is brought into one form first: it is
percent-decoded, capital letters become small, and characters that stand for ASCII ones are replaced
by these.  Then every part must be in order:

* A part that begins with `xn--` is written in Punycode; decoded, it must have a character beyond ASCII
  and none that should have been written otherwise.
* No part begins with a combining mark, and a joiner stands only where letters join.
* If any part is written from right to left, each part keeps to one direction.

A name whose last part is a number must be an address.
-/
import SqlGateway.Dsn.Address
import SqlGateway.Dsn.HostName.Table
import SqlGateway.Text.Alphanumeric
import SqlGateway.Text.LetterCase
import SqlGateway.Text.Percent
import SqlGateway.Text.Printable
import SqlGateway.Text.Punycode
import SqlGateway.Text.Utf8

namespace SqlGateway.Dsn.HostName

/-! ## 1. Characters -/

/-- The ASCII characters that stand in no host name. -/
def isForbidden (c : Char) : Bool :=
  c.toNat ≤ 32 || c.toNat == 127 || "#%/:<>?@[\\]^|".toList.contains c

/-- The ASCII characters that a character stands for. -/
def asciiForm? (c : Char) : Option (List Char) :=
  match asciiRuns.find? fun (first, last, _) => first ≤ c.toNat && c.toNat ≤ last with
  | some (first, _, form) => some [Char.ofNat (form + (c.toNat - first))]
  | none => (asciiWords.lookup c.toNat).map String.toList

/-- A character in the common form of host names; none if it stands in none. -/
def fold? (c : Char) : Option (List Char) :=
  if c.toNat < 0x80 then if isForbidden c then none else some [c.toLower]
  else if refused.contains c then none
  else if ignored.contains c then some []
  else some ((asciiForm? c).getD [c])

/-- Whether a capital letter has a small one; the capitals of one script stay. -/
def isCapital (c : Char) : Bool :=
  Text.lower c != [c] && !(0x13A0 ≤ c.toNat && c.toNat ≤ 0x13F5)

/-- Whether a character is in its common form. -/
def isSettled (c : Char) : Bool :=
  fold? c == some [c] && !variants.contains c && !isCapital c

/-! ## 2. Joiners -/

/-- The marks that join a letter to the next one. -/
def joiningMarks : List Nat :=
  [0x94D, 0x9CD, 0xA4D, 0xACD, 0xB4D, 0xBCD, 0xC4D, 0xCCD, 0xD3B, 0xD3C, 0xD4D, 0xDCA, 0xE3A, 0xEBA,
   0xF84, 0x1039, 0x103A, 0x1714, 0x1734, 0x17D2, 0x1A60, 0x1B44, 0x1BAA, 0x1BAB, 0x1BF2, 0x1BF3,
   0x2D7F, 0xA806, 0xA82C, 0xA8C4, 0xA953, 0xA9C0, 0xAAF6, 0xABED, 0x10A3F, 0x11046, 0x1107F,
   0x110B9, 0x11133, 0x11134, 0x111C0, 0x11235, 0x112EA, 0x1134D, 0x11442, 0x114C2, 0x115BF,
   0x1163F, 0x116B6, 0x1172B, 0x11839, 0x1193D, 0x1193E, 0x119E0, 0x11A34, 0x11A47, 0x11A99,
   0x11C3F, 0x11D44, 0x11D45, 0x11D97]

/-- The letters that join to the next letter. -/
def joiningAhead : Text.CodePoints := ⟨[
  (0x620, 0x620), (0x626, 0x626), (0x628, 0x628), (0x62A, 0x62E), (0x633, 0x63F), (0x641, 0x647),
   (0x649, 0x64A), (0x66E, 0x66F), (0x678, 0x687), (0x69A, 0x6BF), (0x6C1, 0x6C2), (0x6CC, 0x6CC),
   (0x6CE, 0x6CE), (0x6D0, 0x6D1), (0x6FA, 0x6FC), (0x6FF, 0x6FF), (0x712, 0x714), (0x71A, 0x71D),
   (0x71F, 0x727), (0x729, 0x729), (0x72B, 0x72B), (0x72D, 0x72E), (0x74E, 0x758), (0x75C, 0x766),
   (0x850, 0x853), (0x855, 0x855), (0x8A0, 0x8A0), (0x8A2, 0x8A9), (0x1807, 0x1807),
   (0x1820, 0x1877), (0x1887, 0x18A8), (0x18AA, 0x18AA), (0xA840, 0xA872)]⟩

/-- The letters that join to the letter before, and to none behind. -/
def joiningBack : Text.CodePoints := ⟨[
  (0x622, 0x625), (0x627, 0x627), (0x629, 0x629), (0x62F, 0x632), (0x648, 0x648), (0x671, 0x673),
   (0x675, 0x677), (0x688, 0x699), (0x6C0, 0x6C0), (0x6C3, 0x6CB), (0x6CD, 0x6CD), (0x6CF, 0x6CF),
   (0x6D2, 0x6D3), (0x6D5, 0x6D5), (0x6EE, 0x6EF), (0x710, 0x710), (0x715, 0x719), (0x71E, 0x71E),
   (0x728, 0x728), (0x72A, 0x72A), (0x72C, 0x72C), (0x72F, 0x72F), (0x74D, 0x74D), (0x759, 0x75B),
   (0x76B, 0x76C), (0x771, 0x771), (0x773, 0x774), (0x778, 0x779), (0x840, 0x840), (0x846, 0x847),
   (0x849, 0x849), (0x854, 0x854), (0x8AA, 0x8AC), (0x8AE, 0x8AE), (0x8B1, 0x8B2)]⟩

/-- Whether the joiners of a part stand where they may; `before` is what is in front, in reverse. -/
def joinersFit (before : List Char) : List Char → Bool
  | [] => true
  | c :: cs =>
    let behindMark := before.head?.any fun b => joiningMarks.contains b.toNat
    let ahead := (cs.dropWhile marks.contains).head?.any fun x =>
      joiningAhead.contains x || joiningBack.contains x
    let back := (before.dropWhile marks.contains).head?.any joiningAhead.contains
    let fits :=
      if c.toNat == 0x200D then behindMark
      else if c.toNat == 0x200C then behindMark || (back && ahead)
      else true
    fits && joinersFit (c :: before) cs

/-! ## 3. Direction -/

/-- The direction that a character is written in. -/
inductive Direction where
  | rightwards
  | leftwards
  /-- A digit that keeps the direction of its surroundings. -/
  | digit
  /-- A digit of a script that is written leftwards. -/
  | leftwardsDigit
  | mark
  | neutral
deriving DecidableEq, Repr

/-- The code points of scripts that are written leftwards, and the symbols with the names of such
letters. -/
def leftwardsBlocks : Text.CodePoints := ⟨[
  (0x590, 0x8FF), (0x2135, 0x2138), (0xFB1D, 0xFDFF), (0xFE70, 0xFEFC), (0x10800, 0x10FFF), (0x1E800, 0x1EFFF)]⟩

/-- Signs among them that have no direction. -/
def leftwardsNeutrals : Text.CodePoints := ⟨[
  (0x606, 0x607), (0x609, 0x60A), (0x60C, 0x60C), (0x60E, 0x60F), (0x66A, 0x66A), (0x6DE, 0x6DE),
   (0x6E9, 0x6E9), (0x7F6, 0x7F9), (0xFB29, 0xFB29), (0xFD3E, 0xFD4F), (0xFDCF, 0xFDCF),
   (0xFDFD, 0xFDFF), (0x1091F, 0x1091F), (0x10B39, 0x10B3F), (0x1EEF0, 0x1EEF1)]⟩

/-- Digits among them. -/
def leftwardsDigits : Text.CodePoints := ⟨[
  (0x660, 0x669), (0x66B, 0x66C), (0x10D30, 0x10D39), (0x10E60, 0x10E7E)]⟩

/-- The direction of a character.  A mark that takes a place of its own is written like a letter. -/
def direction (c : Char) : Direction :=
  if c.isDigit || (0x6F0 ≤ c.toNat && c.toNat ≤ 0x6F9) then .digit
  else if marks.contains c then if Text.isPrintable c then .rightwards else .mark
  else if leftwardsDigits.contains c then .leftwardsDigit
  else if leftwardsNeutrals.contains c then .neutral
  else if leftwardsBlocks.contains c then .leftwards
  else if Text.isAlphanumeric c then .rightwards
  else .neutral

/-- Whether a part keeps to one direction, which its first character shows. -/
def keepsDirection (part : List Char) : Bool :=
  let ds := part.map direction
  let last := (ds.reverse.dropWhile (· == .mark)).headD .mark
  match ds with
  | [] => true
  | .rightwards :: _ =>
    !ds.contains .leftwards && !ds.contains .leftwardsDigit && (last == .rightwards || last == .digit)
  | .leftwards :: _ =>
    !ds.contains .rightwards && !(ds.contains .digit && ds.contains .leftwardsDigit) &&
      (last == .leftwards || last == .digit || last == .leftwardsDigit)
  | _ => false

/-! ## 4. Names -/

/-- The characters of a part, those of Punycode decoded; none if they are not in their common form. -/
def decodePart? (part : List Char) : Option (List Char) :=
  if "xn--".toList.isPrefixOf part then do
    let cs ← Text.Punycode.decode? (part.drop 4)
    if cs.any (0x80 ≤ ·.toNat) && cs.all isSettled then some cs else none
  else some part

/-- Whether a character stands for a combining mark. -/
def isMark (c : Char) : Bool := marks.contains c || c == '\uFF9E' || c == '\uFF9F'

/-- Whether the parts of a name are in order. -/
def areInOrder (parts : List (List Char)) : Bool :=
  let turns := parts.any fun part => part.any fun c =>
    direction c == .leftwards || direction c == .leftwardsDigit
  parts.all fun part =>
    !part.head?.any isMark && joinersFit [] part && (!turns || keepsDirection part)

/-- A host name in its common form; none if it is no host name. -/
def ofText? (host : List Char) : Option (List Char) := do
  let decoded ← Text.Utf8.decodeChars? (Text.Percent.decode (Text.Utf8.encodeChars host))
  let name := (← decoded.mapM fold?).flatten
  let parts ← (name.splitOn '.').mapM decodePart?
  if areInOrder parts then some name else none

end SqlGateway.Dsn.HostName
