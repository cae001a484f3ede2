import NodeClient.Text.Basic

/-! # Punycode

A text is written in ASCII as its ASCII characters, a hyphen, and numbers that tell how to insert the
others in the order of their code points. From one insertion to the next a pointer runs through all
pairs of a code point and a place, and the number counts the steps. A number is written with digits
of base 36, the least first; a digit below a threshold ends it. The thresholds follow the size of the
numbers before.
-/

namespace NodeClient.Text.Punycode

def digit (value : Nat) : Char :=
  if value < 26 then Char.ofNat (97 + value) else Char.ofNat (22 + value)

/-- The value of a letter in either case or a digit. -/
def digitValue? (c : Char) : Option Nat :=
  if 'a' ≤ c ∧ c ≤ 'z' then some (c.toNat - 97)
  else if 'A' ≤ c ∧ c ≤ 'Z' then some (c.toNat - 65)
  else if '0' ≤ c ∧ c ≤ '9' then some (c.toNat - 22)
  else none

/-- The least digit that is not the last one at a place of a number. -/
def threshold (bias place : Nat) : Nat := max 1 (min 26 (36 * (place + 1) - bias))

/-- The bias after numbers of a size. -/
def biasOf (size : Nat) : Nat :=
  if 455 < size then 36 + biasOf (size / 35) else 36 * size / (size + 38)

/-- The bias behind a number, with which the text has so many characters. The first number is
mostly far larger than those behind it. -/
def nextBias (number length : Nat) (isFirst : Bool) : Nat :=
  let size := if isFirst then number / 700 else number / 2
  biasOf (size + size / length)

/-- The digits of a number from a place on. -/
def writeNumber (bias place number : Nat) : List Char :=
  let least := threshold bias place
  if number < least then [digit number]
  else
    digit (least + (number - least) % (36 - least)) ::
      writeNumber bias (place + 1) ((number - least) / (36 - least))
termination_by number
decreasing_by
  have hpos : 1 ≤ threshold bias place := Nat.le_max_left ..
  have := Nat.div_le_self (number - threshold bias place) (36 - threshold bias place)
  omega

/-- The digits of the numbers that insert into a text of so many characters. -/
def writeNumbers (length bias : Nat) (isFirst : Bool) : List Nat → List Char
  | [] => []
  | number :: numbers =>
    writeNumber bias 0 number ++
      writeNumbers (length + 1) (nextBias number (length + 1) isFirst) false numbers

/-- The steps from a number of steps on to each occurrence of a code point, and those behind the
last one. -/
def stepsTo (code : Nat) : Nat → List Char → List Nat × Nat
  | steps, [] => ([], steps)
  | steps, c :: rest =>
    if c.toNat < code then stepsTo code (steps + 1) rest
    else if c.toNat = code then
      let (numbers, after) := stepsTo code 0 rest
      (steps :: numbers, after)
    else stepsTo code steps rest

/-- The numbers that insert the characters with given code points, the pointer being at a code
point after a number of steps. -/
def numbersFrom (text : List Char) (pointer steps : Nat) : List Nat → List Nat
  | [] => []
  | code :: codes =>
    let places := (text.filter fun c => c.toNat < code).length + 1
    let (numbers, after) := stepsTo code (steps + (code - pointer) * places) text
    numbers ++ numbersFrom text (code + 1) (after + 1) codes

/-- The code points beyond ASCII in a text, each once and in increasing order. -/
def codesOf (text : List Char) : List Nat :=
  ((text.filter fun c => !isAscii c).map Char.toNat).mergeSort.eraseReps

def firstBias : Nat := 72

def encode (text : List Char) : List Char :=
  let ascii := text.filter isAscii
  let numbers := numbersFrom text 0x80 0 (codesOf text)
  (if ascii.isEmpty then [] else ascii ++ ['-']) ++
    writeNumbers ascii.length firstBias true numbers

/-- The numbers that digits spell. A number was read up to a place, where a digit has a weight. -/
def readNumbers? (length bias : Nat) (isFirst : Bool) (place weight number : Nat) :
    List Char → Option (List Nat)
  | [] => if place = 0 then some [] else none
  | c :: rest =>
    match digitValue? c with
    | none => none
    | some value =>
      let least := threshold bias place
      let number := number + value * weight
      if value < least then
        let bias := nextBias number (length + 1) isFirst
        (readNumbers? (length + 1) bias false 0 1 0 rest).map (number :: ·)
      else readNumbers? length bias isFirst (place + 1) (weight * (36 - least)) number rest

/-- Inserts characters into a text by numbers, the pointer being at a code point and a place. -/
def insertAll? (code place : Nat) (text : List Char) : List Nat → Option (List Char)
  | [] => some text
  | number :: numbers =>
    let places := text.length + 1
    let code := code + (place + number) / places
    let place := (place + number) % places
    if code.isValidChar then
      insertAll? code (place + 1) (text.insertIdx place (Char.ofNat code)) numbers
    else none

def decode? (written : List Char) : Option (List Char) :=
  let (ascii, digits) := (cutLast? '-' written).getD ([], written)
  (readNumbers? ascii.length firstBias true 0 1 0 digits).bind (insertAll? 0x80 0 ascii)

end NodeClient.Text.Punycode
