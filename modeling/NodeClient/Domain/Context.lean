import NodeClient.Text.Direction
import NodeClient.Text.Joining
import NodeClient.Text.Script

/-! # Characters that depend on their neighbours

Two joiners, a few points and marks, and the Arabic digits may stand in a label only where the other
characters of the label allow them. A character is judged with those before it, in reverse, and those
behind it.
-/

namespace NodeClient.Domain

/-- Whether a character is the joiner that keeps letters apart. -/
def isNonJoiner (c : Char) : Bool := c.toNat = 0x200C

/-- Whether a character is one of the two joiners. -/
def isJoiner (c : Char) : Bool := isNonJoiner c || c.toNat = 0x200D

/-- Whether letters that join stand on both sides, characters that joining passes through left out
of account. The characters before are given in reverse. -/
def joinsAcross (before after : List Char) : Bool :=
  (before.dropWhile Text.isTransparent).head?.any Text.joinsNext &&
    (after.dropWhile Text.isTransparent).head?.any Text.joinsPrevious

def arabicDigits : Text.CodeSet := [(0x660, 0x669)]

/-- The Arabic digits of the eastern form. -/
def easternDigits : Text.CodeSet := [(0x6F0, 0x6F9)]

/-- Whether a character depends on its neighbours, the joiners left out. -/
def isContextual (c : Char) : Bool :=
  Text.CodeSet.has [(0xB7, 0xB7), (0x375, 0x375), (0x5F3, 0x5F4), (0x30FB, 0x30FB)] c ||
    arabicDigits.has c || easternDigits.has c

/-- Whether a character belongs to Chinese or Japanese writing. -/
def isEastAsian (c : Char) : Bool := Text.hiragana.has c || Text.katakana.has c || Text.han.has c

/-- Whether a contextual character has the right neighbours: the middle point stands between two
l's, the Greek numeral sign before Greek, Hebrew punctuation behind Hebrew, the Katakana point in
East Asian text, and Arabic digits without those of the other form. -/
def fits (label before : List Char) (c : Char) (after : List Char) : Bool :=
  if c.toNat = 0xB7 then before.head? = some 'l' && after.head? = some 'l'
  else if c.toNat = 0x375 then after.head?.any Text.greek.has
  else if c.toNat = 0x30FB then label.any isEastAsian
  else if arabicDigits.has c then !label.any easternDigits.has
  else if easternDigits.has c then !label.any arabicDigits.has
  else before.head?.any Text.hebrew.has

/-- Whether a joiner stands where it may: behind a mark that takes a vowel away, and the one that
keeps letters apart also between letters that would join, behind a known character. -/
def joinerFits (before : List Char) (c : Char) (after : List Char) : Bool :=
  before.head?.any (fun mark => Text.combiningClass mark = Text.viramaClass) ||
    (isNonJoiner c && before.head?.any (fun other => Text.Direction.of other ≠ .unknown) &&
      joinsAcross before after)

end NodeClient.Domain
