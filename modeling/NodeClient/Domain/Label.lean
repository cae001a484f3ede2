import NodeClient.Domain.Character
import NodeClient.Domain.Context
import NodeClient.Domain.Fault
import NodeClient.Text.Composed
import NodeClient.Text.Punycode

/-! # Labels of domain names

A label is composed text of the characters that domain names may hold. It starts with no mark, its
hyphens stand inside but not at the third and fourth place together, and characters that depend on
their neighbours have the right ones. A label with letters from right to left runs in one direction.
Behind `xn--` a label is written in ASCII.
-/

namespace NodeClient.Domain.Label

def checkCharacter (label before : List Char) (c : Char) (after : List Char) : Except Fault Unit :=
  if isPlain c then .ok ()
  else if isJoiner c then
    if joinerFits before c after then .ok () else .error (.joiner c (before.length + 1) label)
  else if isContextual c then
    if fits label before c after then .ok ()
    else .error (.neighbours c (before.length + 1) label)
  else .error (.character c (before.length + 1) label)

/-- Checks the characters of a label behind those that are given in reverse. -/
def checkBehind (label before : List Char) : List Char → Except Fault Unit
  | [] => .ok ()
  | c :: after => do
    checkCharacter label before c after
    checkBehind label (c :: before) after

/-- Checks directions from right to left: no letter runs the other way, and all numbers are of one
kind. -/
def checkRight (position : Nat) (number? : Option Text.Direction) :
    List Text.Direction → Except Fault Unit
  | [] => .ok ()
  | direction :: rest =>
    if direction = .left then .error (.leftAmongRight position)
    else if direction = .arabicNumber ∨ direction = .europeanNumber then
      if number?.any (· ≠ direction) then .error .mixedNumbers
      else checkRight (position + 1) (some direction) rest
    else checkRight (position + 1) number? rest

/-- Checks directions from left to right: nothing runs the other way. -/
def checkLeft (position : Nat) : List Text.Direction → Except Fault Unit
  | [] => .ok ()
  | direction :: rest =>
    if direction = .right ∨ direction = .arabicNumber then .error (.rightAmongLeft position)
    else checkLeft (position + 1) rest

/-- Checks that a label ends with a letter or a number, marks left out of account. -/
def checkEnd (directions : List Text.Direction) : Except Fault Unit :=
  match directions.reverse.dropWhile (· = .mark) with
  | .neutral :: _ => .error .lastDirection
  | _ => .ok ()

/-- Checks the directions of a label. One that runs from left to right throughout may have any. -/
def checkDirections (label : List Char) : Except Fault Unit := do
  let directions := label.map Text.Direction.of
  if directions.contains .unknown then
    throw (.unknownDirection ((directions.takeWhile (· ≠ .unknown)).length + 1) label)
  if directions.contains .right || directions.contains .arabicNumber then
    match directions.head? with
    | some .right => checkRight 1 none directions
    | some .left => checkLeft 1 directions
    | _ => throw (.firstDirection label)
    checkEnd directions

def check (label : List Char) : Except Fault Unit := do
  if label.isEmpty then throw .emptyLabel
  if !Text.isComposed label then throw .notComposed
  if (label.drop 2).take 2 = ['-', '-'] then throw .innerHyphens
  if label.head? = some '-' ∨ label.getLast? = some '-' then throw .outerHyphen
  if label.head?.any Text.isMark then throw .leadingMark
  checkBehind label [] label
  checkDirections label

/-- What stands in front of a label that is written in ASCII. -/
def mark : List Char := "xn--".toList

def checkAscii (label : List Char) : Except Fault Unit :=
  let label := label.map Char.toLower
  if mark.isPrefixOf label then
    let written := label.drop mark.length
    if written.isEmpty then .error .nothingWritten
    else if written.getLast? = some '-' then .error .writtenHyphen
    else
      match Text.Punycode.decode? written with
      | none => .error .notWritten
      | some label => check label
  else check label

/-- Most characters of a label in ASCII. -/
def lengthLimit : Nat := 63

def toAscii (label : List Char) : Except Fault (List Char) := do
  let isAscii := label.all Text.isAscii
  if isAscii then checkAscii label else check label
  let ascii := if isAscii then label else mark ++ Text.Punycode.encode label
  if lengthLimit < ascii.length then throw .longLabel
  return ascii

end NodeClient.Domain.Label
