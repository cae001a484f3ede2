/-! # Base64

Three bytes are written as four digits of the 64-digit alphabet. One or two bytes at the end are
written as two or three digits, filled with equals signs to four.
-/

namespace NodeClient.Text

/-- The digit of a value below 64. -/
def base64Digit (value : Nat) : Char :=
  if value < 26 then Char.ofNat (value + 65)
  else if value < 52 then Char.ofNat (value + 71)
  else if value < 62 then Char.ofNat (value - 4)
  else if value = 62 then '+'
  else '/'

def base64 : List UInt8 → List Char
  | [] => []
  | [a] =>
    let group := a.toNat * 65536
    [base64Digit (group / 262144), base64Digit (group / 4096 % 64), '=', '=']
  | [a, b] =>
    let group := a.toNat * 65536 + b.toNat * 256
    [base64Digit (group / 262144), base64Digit (group / 4096 % 64),
      base64Digit (group / 64 % 64), '=']
  | a :: b :: c :: rest =>
    let group := a.toNat * 65536 + b.toNat * 256 + c.toNat
    base64Digit (group / 262144) :: base64Digit (group / 4096 % 64) ::
      base64Digit (group / 64 % 64) :: base64Digit (group % 64) :: base64 rest

end NodeClient.Text
