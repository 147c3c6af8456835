import PrimitiveDesk.Text.Compose
import PrimitiveDesk.Text.Direction
import PrimitiveDesk.Text.Hidden
import PrimitiveDesk.Text.Joining
import PrimitiveDesk.Text.Plain
import PrimitiveDesk.Text.Punycode

/-!
# Domain names

A domain name is a row of labels with points between them. In its normal form all characters are
plain and composed, and a label that is not ASCII is written in ASCII behind a mark of its own.
`Domain.normalize?` gives the normal form of a name; names with characters that cannot stand in a
domain have none.
-/

namespace PrimitiveDesk.Domain

open Text

/-- Characters of ASCII that cannot stand in a domain name. -/
def forbidden : List Char :=
  [' ', '#', '/', ':', '<', '>', '?', '@', '[', '\\', ']', '^', '|', '%', '\x7f']

/-- Whether a character of ASCII can stand in a domain name. -/
def isPermitted (c : Char) : Bool :=
  0x20 ≤ c.toNat && !forbidden.contains c

/-- Runs of characters that are left out of a domain name. -/
def ignoredRuns : List (Nat × Nat) :=
  [(0xAD, 0xAD), (0x34F, 0x34F), (0x115F, 0x1160), (0x17B4, 0x17B5), (0x180B, 0x180F),
   (0x200B, 0x200B), (0x2060, 0x2064), (0x206A, 0x206F), (0x3164, 0x3164), (0xFE00, 0xFE0F),
   (0xFEFF, 0xFEFF), (0xFFA0, 0xFFA0), (0x1BCA0, 0x1BCA3), (0x1D173, 0x1D17A),
   (0xE0100, 0xE01EF)]

/-- Runs of characters that show and yet cannot stand in a domain name. -/
def excludedRuns : List (Nat × Nat) :=
  [(0x2FF0, 0x2FFF), (0x31EF, 0x31EF), (0xFFFC, 0xFFFD)]

/-- Runs of characters that stand for others which cannot stand in a domain name, such as a space,
or for a point. -/
def improperRuns : List (Nat × Nat) :=
  [(0xA0, 0xA0), (0xA8, 0xA8), (0xAF, 0xAF), (0xB4, 0xB4), (0xB8, 0xB8), (0x2D8, 0x2DD),
   (0x37A, 0x37A), (0x384, 0x385), (0x1FBD, 0x1FBD), (0x1FBF, 0x1FC1), (0x1FCD, 0x1FCF),
   (0x1FDD, 0x1FDF), (0x1FED, 0x1FEE), (0x1FFD, 0x1FFE), (0x2000, 0x200A), (0x2017, 0x2017),
   (0x2024, 0x2026), (0x202F, 0x202F), (0x203E, 0x203E), (0x2047, 0x2049), (0x205F, 0x205F),
   (0x2100, 0x2101), (0x2105, 0x2106), (0x2488, 0x249B), (0x2A74, 0x2A74), (0x3000, 0x3000),
   (0x309B, 0x309C), (0x33C2, 0x33C2), (0x33C7, 0x33C7), (0x33D8, 0x33D8), (0xFC5E, 0xFC63),
   (0xFDFA, 0xFDFB), (0xFE12, 0xFE13), (0xFE16, 0xFE16), (0xFE19, 0xFE19), (0xFE30, 0xFE30),
   (0xFE47, 0xFE4C), (0xFE52, 0xFE52), (0xFE55, 0xFE56), (0xFE5F, 0xFE5F), (0xFE64, 0xFE65),
   (0xFE68, 0xFE68), (0xFE6A, 0xFE6B), (0xFE70, 0xFE70), (0xFE72, 0xFE72), (0xFE74, 0xFE74),
   (0xFE76, 0xFE76), (0xFE78, 0xFE78), (0xFE7A, 0xFE7A), (0xFE7C, 0xFE7C), (0xFE7E, 0xFE7E),
   (0xFF03, 0xFF03), (0xFF05, 0xFF05), (0xFF0F, 0xFF0F), (0xFF1A, 0xFF1A), (0xFF1C, 0xFF1C),
   (0xFF1E, 0xFF20), (0xFF3B, 0xFF3E), (0xFF5C, 0xFF5C), (0xFFE3, 0xFFE3), (0x1F100, 0x1F100)]

/-- The character that keeps letters apart. -/
def divider : Char := '\u200c'

/-- The two characters that keep letters apart or join them. -/
def isJoiner (c : Char) : Bool :=
  c == divider || c == '\u200d'

/-- The characters that a character of a domain name stands for. -/
def image (c : Char) : List Char :=
  if inRanges ignoredRuns c.toNat then []
  else if c.toNat < 0x80 then [c.toLower]
  else plainForm c

/-- Whether a character can stand in the normal form of a label. -/
def isValid (c : Char) : Bool :=
  if c.toNat < 0x80 then isPermitted c && !c.isUpper
  else if isJoiner c then true
  else
    (!isHidden c || isMark c) && !inRanges excludedRuns c.toNat && !inRanges improperRuns c.toNat &&
      image c == [c]

/-- Whether each joiner stands behind a mark that joins letters; the one that keeps letters apart
may also stand between letters that would be joined. `reversed` holds the characters before, latest
first. -/
def joinersFit (reversed : List Char) : List Char → Bool
  | [] => true
  | c :: cs =>
    let behindJoiningMark := reversed.head?.any fun m => classOf m.toNat == 9
    (!isJoiner c || behindJoiningMark || (c == divider && wouldJoin reversed cs)) &&
      joinersFit (c :: reversed) cs

/-- Whether a label that is not ASCII consists of characters that can stand there. -/
def isValidLabel (label : List Char) : Bool :=
  label.all isValid && !label.head?.any isMark && joinersFit [] label

/-! ## Directions -/

/-- Whether a character makes the direction of a domain name count. -/
def turns (c : Char) : Bool :=
  directionOf c == .rightToLeft || directionOf c == .arabicNumber

/-- Whether a label keeps to one direction. It starts with a letter, and ends with a letter or a
digit, apart from marks. -/
def keepsDirection (label : List Char) : Bool :=
  let directions := label.map directionOf
  let last? := (directions.reverse.dropWhile (· == .mark)).head?
  match directions.head? with
  | none => true
  | some .leftToRight =>
    !label.any turns && (last? == some .leftToRight || last? == some .number)
  | some .rightToLeft =>
    !directions.contains .leftToRight &&
      !(directions.contains .number && directions.contains .arabicNumber) &&
      (last? == some .rightToLeft || last? == some .number || last? == some .arabicNumber)
  | some _ => false

/-! ## Labels -/

/-- The mark of a label that is written in ASCII. -/
def mark : List Char := "xn--".toList

/-- The text of a label that is written in ASCII. It must not be ASCII itself, and is composed
already. -/
def decoded? (digits : List Char) : Option (List Char) :=
  if digits.any (0x80 ≤ ·.toNat) then none
  else
    (ofPunycode? digits).bind fun label =>
      if label.any (0x80 ≤ ·.toNat) && compose label == label then some label else none

/-- The text of a label, with the marked ones decoded. -/
def labelText? (label : List Char) : Option (List Char) :=
  if mark.isPrefixOf label then decoded? (label.drop mark.length) else some label

/-- A label in ASCII. -/
def labelAscii (label : List Char) : List Char :=
  if label.all (·.toNat < 0x80) then label else mark ++ toPunycode label

/-- The normal form of a domain name. -/
def normalize? (name : List Char) : Option (List Char) :=
  let labels := (compose (name.flatMap image)).splitOn '.'
  match labels.mapM labelText? with
  | none => none
  | some texts =>
    if texts.all isValidLabel && (!texts.flatten.any turns || texts.all keepsDirection) then
      some (['.'].intercalate (texts.map labelAscii))
    else none

end PrimitiveDesk.Domain
