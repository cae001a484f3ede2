import NodeClient.Text.Composite
import NodeClient.Text.Mark

/-! # Composed text

A text is composed when it is written with as few characters as its composites allow: split into
their parts, its characters with the marks in the order of their classes, it joins to itself again.
-/

namespace NodeClient.Text

/-- How often a composite may be split, since its first part may be a composite. -/
def splitDepth : Nat := 4

/-- The characters of which a character is composed. -/
def partsOf : Nat → Char → List Char
  | 0, c => [c]
  | depth + 1, c =>
    match parts? c with
    | none => [c]
    | some (first, second) => partsOf depth first ++ [second]

/-- Puts a mark in front of marks, behind those of a smaller class. -/
def insertMark (c : Char) : List Char → List Char
  | [] => [c]
  | mark :: rest =>
    if combiningClass mark ≠ 0 ∧ combiningClass mark < combiningClass c then
      mark :: insertMark c rest
    else c :: mark :: rest

/-- The marks behind each character in the order of their classes. -/
def sortMarks (text : List Char) : List Char := text.foldr insertMark []

/-- A text split into the parts of its composites. -/
def decomposed (text : List Char) : List Char := sortMarks (text.flatMap (partsOf splitDepth))

/-- Joins the characters behind a character to it, one after the other. A mark is passed over if it
does not join, and then hides those of its class or a smaller one. -/
def joinFrom (base : Char) (marks : List Char) : List Char → List Char
  | [] => base :: marks
  | c :: rest =>
    let isHidden := marks.getLast?.any fun mark => combiningClass c ≤ combiningClass mark
    match if isHidden then none else joined? base c with
    | some joined => joinFrom joined marks rest
    | none =>
      if combiningClass c = 0 then base :: (marks ++ joinFrom c [] rest)
      else joinFrom base (marks ++ [c]) rest

/-- A split text with its composites joined. -/
def joinAll (text : List Char) : List Char :=
  let isFree (c : Char) : Bool := combiningClass c ≠ 0
  match text.dropWhile isFree with
  | [] => text
  | base :: rest => text.takeWhile isFree ++ joinFrom base [] rest

def isComposed (text : List Char) : Bool :=
  !text.any neverComposed.has && joinAll (decomposed text) == text

end NodeClient.Text
