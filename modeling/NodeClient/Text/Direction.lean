import NodeClient.Text.Basic
import NodeClient.Text.Mark

/-! # Directions

Every character that a domain name may hold runs to the left or to the right, or takes its direction
from its neighbours. The tables state Unicode 14, and a character that it does not know has no
direction; they tell nothing about characters that no domain name holds.
-/

namespace NodeClient.Text

/-- The direction of a character. -/
inductive Direction where
  | left
  | right
  | arabicNumber
  | europeanNumber
  | neutral
  | mark
  | unknown
  deriving Repr, DecidableEq

namespace Direction

/-- Letters that are written from right to left. -/
def rightSet : CodeSet :=
  [(0x5D0, 0x64A), (0x66E, 0x6EF), (0x6FA, 0x88E), (0x8A0, 0x8C9), (0xFE73, 0xFE73),
   (0x10800, 0x10939), (0x10980, 0x10D23), (0x10E80, 0x10EB1), (0x10F00, 0x10FF6),
   (0x1E800, 0x1E959)]

/-- Numbers that stand among letters from right to left. -/
def arabicNumberSet : CodeSet :=
  [(0x660, 0x669), (0x10D30, 0x10D39)]

/-- Numbers that stand among letters of either direction. -/
def europeanNumberSet : CodeSet :=
  [(0x30, 0x39), (0x6F0, 0x6F9)]

/-- Characters without a direction of their own. -/
def neutralSet : CodeSet :=
  [(0x2D, 0x2D), (0xB7, 0xB7), (0x2B9, 0x2BA), (0x2C6, 0x2CF), (0x2EC, 0x2EC), (0x375, 0x375),
   (0x200C, 0x200D), (0x2E2F, 0x2E2F), (0x30FB, 0x30FB), (0xA67F, 0xA67F), (0xA717, 0xA71F),
   (0xA788, 0xA788)]

/-- Characters that Unicode 14 does not know. -/
def unknownSet : CodeSet :=
  [(0x88F, 0x897), (0xC5C, 0xC5C), (0xCDC, 0xCDC), (0xCF3, 0xCF3), (0xECE, 0xECE), (0x1ACF, 0x1AEB),
   (0x1C8A, 0x1C8A), (0xA7CD, 0xA7CF), (0xA7DB, 0xA7DB), (0x105C0, 0x105F3), (0x10940, 0x10959),
   (0x10D40, 0x10D85), (0x10EC2, 0x10EFF), (0x1123F, 0x11241), (0x11380, 0x113E2),
   (0x116D0, 0x116E3), (0x11B60, 0x11BF9), (0x11DB0, 0x11DE9), (0x11F00, 0x11F5A),
   (0x1342F, 0x143FA), (0x16100, 0x16139), (0x16D40, 0x16D79), (0x16EBB, 0x16ED3),
   (0x16FF2, 0x16FF3), (0x187F8, 0x187FF), (0x18CFF, 0x18CFF), (0x18D09, 0x18DF2),
   (0x1B132, 0x1B132), (0x1B155, 0x1B155), (0x1DF25, 0x1E08F), (0x1E4D0, 0x1E6FF),
   (0x2B739, 0x2B73F), (0x2CEA2, 0x2CEAD), (0x2EBF0, 0x2EE5D), (0x31350, 0x33479)]

/-- Nonspacing marks that run from left to right like letters. -/
def leftMarks : CodeSet :=
  [(0xCBF, 0xCBF), (0xCC6, 0xCC6), (0x11A07, 0x11A08), (0x11C3F, 0x11C3F)]

def of (c : Char) : Direction :=
  if isNonspacing c then if leftMarks.has c then .left else .mark
  else if europeanNumberSet.has c then .europeanNumber
  else if neutralSet.has c then .neutral
  else if rightSet.has c then .right
  else if arabicNumberSet.has c then .arabicNumber
  else if unknownSet.has c then .unknown
  else .left

end Direction

end NodeClient.Text
