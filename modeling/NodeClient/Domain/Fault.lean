import NodeClient.Text.Quoted

/-! # Faults of domain names

The first fault of a name is reported, label by label. Positions in a label count from 1.
-/

namespace NodeClient.Domain

/-- Why a text is no domain name. -/
inductive Fault where
  | tooLong
  | emptyLabel
  | longLabel
  | nothingWritten
  | writtenHyphen
  | notWritten
  | notComposed
  | innerHyphens
  | outerHyphen
  | leadingMark
  | character (c : Char) (position : Nat) (label : List Char)
  | joiner (c : Char) (position : Nat) (label : List Char)
  | neighbours (c : Char) (position : Nat) (label : List Char)
  | unknownDirection (position : Nat) (label : List Char)
  | firstDirection (label : List Char)
  | leftAmongRight (position : Nat)
  | rightAmongLeft (position : Nat)
  | mixedNumbers
  | lastDirection
  deriving Repr, DecidableEq

namespace Fault

/-- A code point as messages show it. -/
def shown (c : Char) : String :=
  "U+" ++ String.ofList ((Text.hexadecimal 4 c.toNat).map Char.toUpper)

def quotedLabel (label : List Char) : String := String.ofList (Text.quotedChars label)

def message : Fault → String
  | .tooLong => "Domain too long"
  | .emptyLabel => "Empty Label"
  | .longLabel => "Label too long"
  | .nothingWritten => "Malformed A-label, no Punycode eligible content found"
  | .writtenHyphen => "A-label must not end with a hyphen"
  | .notWritten => "Invalid A-label"
  | .notComposed => "Label must be in Normalization Form C"
  | .innerHyphens => "Label has disallowed hyphens in 3rd and 4th position"
  | .outerHyphen => "Label must not start or end with a hyphen"
  | .leadingMark => "Label begins with an illegal combining character"
  | .character c position label =>
    s!"Codepoint {shown c} at position {position} of {quotedLabel label} not allowed"
  | .joiner c position label =>
    s!"Unknown codepoint adjacent to joiner {shown c} at position {position} in {quotedLabel label}"
  | .neighbours c position label =>
    s!"Codepoint {shown c} not allowed at position {position} in {quotedLabel label}"
  | .unknownDirection position label =>
    s!"Unknown directionality in label {quotedLabel label} at position {position}"
  | .firstDirection label =>
    s!"First codepoint in label {quotedLabel label} must be directionality L, R or AL"
  | .leftAmongRight position =>
    s!"Invalid direction for codepoint at position {position} in a right-to-left label"
  | .rightAmongLeft position =>
    s!"Invalid direction for codepoint at position {position} in a left-to-right label"
  | .mixedNumbers => "Can not mix numeral types in a right-to-left label"
  | .lastDirection => "Label ends with illegal codepoint directionality"

def isDirection : Fault → Bool
  | .unknownDirection _ _ | .firstDirection _ | .leftAmongRight _ | .rightAmongLeft _
  | .mixedNumbers | .lastDirection => true
  | _ => false

end Fault

end NodeClient.Domain
