/-! # Classes of characters and parts of texts

A property of characters is stated as closed ranges of code points, or as a rule. White space is the
Unicode property of that name. A blank is white space or one of the four information separators, which
are stripped from around a text but separate nothing inside a number. A line feed and a carriage
return end a line, and nothing else does.

A text is trimmed of a class of characters around it, its line ends are told alike, and it is cut at a
separator. Each cut keeps everything but the separator: the parts with the separator put back are the
text.
-/

namespace NodeClient.Text

/-- Closed ranges of code points, in increasing order. -/
abbrev CodeSet := List (Nat × Nat)

def CodeSet.has (set : CodeSet) (c : Char) : Bool :=
  set.any fun range => range.1 ≤ c.toNat && c.toNat ≤ range.2

def isAscii (c : Char) : Bool := c.toNat < 0x80

def isSpace (c : Char) : Bool :=
  let code := c.toNat
  (9 ≤ code && code ≤ 13) || code == 0x20 || code == 0x85 || code == 0xA0 || code == 0x1680 ||
    (0x2000 ≤ code && code ≤ 0x200A) || code == 0x2028 || code == 0x2029 || code == 0x202F ||
    code == 0x205F || code == 0x3000

/-- Whether a character is white space or an information separator. -/
def isBlank (c : Char) : Bool :=
  isSpace c || (0x1C ≤ c.toNat && c.toNat ≤ 0x1F)

def isLineEnd (c : Char) : Bool := c = '\n' || c = '\r'

/-- Drops the characters of a class from the end. -/
def trimRight (drop : Char → Bool) (text : List Char) : List Char :=
  (text.reverse.dropWhile drop).reverse

/-- Drops the characters of a class from both ends. -/
def trim (drop : Char → Bool) (text : List Char) : List Char :=
  trimRight drop (text.dropWhile drop)

/-- A text in which every line end is a line feed. -/
def foldLines : List Char → List Char
  | [] => []
  | '\r' :: rest =>
    match rest with
    | '\n' :: _ => foldLines rest
    | _ => '\n' :: foldLines rest
  | c :: rest => c :: foldLines rest

/-- The parts before and after the first place where the separator stands. -/
def cutFirst? (separator : List Char) : List Char → Option (List Char × List Char)
  | [] => if separator.isEmpty then some ([], []) else none
  | c :: rest =>
    if separator.isPrefixOf (c :: rest) then some ([], (c :: rest).drop separator.length)
    else (cutFirst? separator rest).map fun (before, after) => (c :: before, after)

/-- The parts before and after the last occurrence of a character. -/
def cutLast? (separator : Char) : List Char → Option (List Char × List Char)
  | [] => none
  | c :: rest =>
    match cutLast? separator rest with
    | some (before, after) => some (c :: before, after)
    | none => if c = separator then some ([], rest) else none

/-- All parts between occurrences of a character; there is always at least one. -/
def splitAt (separator : Char) : List Char → List (List Char)
  | [] => [[]]
  | c :: rest =>
    if c = separator then [] :: splitAt separator rest
    else
      match splitAt separator rest with
      | [] => [[c]]
      | part :: parts => (c :: part) :: parts

end NodeClient.Text
