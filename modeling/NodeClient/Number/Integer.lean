import NodeClient.Text.Basic
import NodeClient.Text.Digit

/-! # Reading integers

An integer is written with decimal digits of any script, an optional sign and single underscores
between digits, and may stand between white space. A run of more than 4300 digits is refused,
whatever follows it.
-/

namespace NodeClient.Number

/-- Most digits that a written integer may have. -/
def digitLimit : Nat := 4300

/-- Why a text is not read as an integer. -/
inductive IntegerFault where
  | malformed
  | tooLong (digits : Nat)
  deriving Repr, DecidableEq

/-- What an integer with too many digits is refused with. The digits are counted where it is read,
and not where it is written. -/
def tooLongMessage (digits? : Option Nat) : String :=
  let count :=
    match digits? with
    | some digits => s!": value has {digits} digits"
    | none => ""
  s!"Exceeds the limit ({digitLimit} digits) for integer string conversion{count}; use sys.set_int_max_str_digits() to increase the limit"

/-- Digits with single underscores between them, and what follows them. -/
def digitRun : List Char → List Nat × List Char
  | [] => ([], [])
  | c :: rest =>
    match Text.decimalDigit? c with
    | some value =>
      let (values, after) := digitRun rest
      (value :: values, after)
    | none =>
      if c = '_' then
        match rest with
        | [] => ([], c :: rest)
        | next :: _ =>
          if (Text.decimalDigit? next).isSome then digitRun rest else ([], c :: rest)
      else ([], c :: rest)

/-- The sign in front of a number (true when negative) and what follows it. -/
def signOf : List Char → Bool × List Char
  | '-' :: rest => (true, rest)
  | '+' :: rest => (false, rest)
  | text => (false, text)

/-- A natural number with the given sign. -/
def withSign (negative : Bool) (magnitude : Nat) : Int :=
  if negative then -(magnitude : Int) else magnitude

def readInteger (text : List Char) : Except IntegerFault Int :=
  let (negative, unsigned) := signOf (text.dropWhile Text.isSpace)
  match unsigned with
  | [] => .error .malformed
  | first :: _ =>
    if (Text.decimalDigit? first).isNone then .error .malformed
    else
      let (digits, after) := digitRun unsigned
      if digitLimit < digits.length then .error (.tooLong digits.length)
      else if after.all Text.isSpace then .ok (withSign negative (Text.ofDigits 10 digits))
      else .error .malformed

end NodeClient.Number
