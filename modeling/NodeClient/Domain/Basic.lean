import NodeClient.Domain.Label

/-! # Domain names

A domain name is a list of labels with points between; an empty label may end it. The full stops of
East Asian writing count as points too. In ASCII a name has at most 253 characters, a point at the
end left out of account.
-/

namespace NodeClient.Domain

/-- Whether a character stands between labels. -/
def isPoint (c : Char) : Bool :=
  c = '.' || c.toNat = 0x3002 || c.toNat = 0xFF0E || c.toNat = 0xFF61

def labels (name : List Char) : List (List Char) :=
  Text.splitAt '.' (name.map fun c => if isPoint c then '.' else c)

/-- The labels of a name without an empty one at the end, and whether there was one. -/
def cutEnd (labels : List (List Char)) : List (List Char) × Bool :=
  if 1 < labels.length ∧ labels.getLast? = some [] then (labels.dropLast, true) else (labels, false)

/-- Most characters of a name in ASCII. -/
def lengthLimit : Nat := 253

def checkAscii (name : List Char) : Except Fault Unit := do
  if lengthLimit + 1 < name.length then throw .tooLong
  (cutEnd (labels name)).1.forM Label.checkAscii

def toAscii (name : List Char) : Except Fault (List Char) := do
  if lengthLimit + 1 < name.length then throw .tooLong
  let (labels, hasEnd) := cutEnd (labels name)
  let ascii := ['.'].intercalate (← labels.mapM Label.toAscii)
  if lengthLimit < ascii.length then throw .tooLong
  return if hasEnd then ascii ++ ['.'] else ascii

end NodeClient.Domain
