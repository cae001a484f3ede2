import NodeClient.Number.Integer
import NodeClient.Text.Basic
import NodeClient.Text.Quoted

/-! # Releases of the server

A release is named by its number. A server reports its version as one integer, the release number
times ten thousand plus a minor and a patch number, so floor division finds the release. Texts name
a release by its number, by a dotted version, or by a dotted version with the leading zero that
releases before 22 carried.
-/

namespace NodeClient

/-- A release of the server that a client can be bound to, oldest first. -/
inductive Release where
  | v17
  | v18
  | v19
  | v20
  | v21
  | v22
  | v23
  | v24
  | v25
  | v26
  | v27
  | v28
  deriving Repr, DecidableEq

namespace Release

/-- Every release, oldest first. -/
def all : List Release :=
  [.v17, .v18, .v19, .v20, .v21, .v22, .v23, .v24, .v25, .v26, .v27, .v28]

theorem mem_all (release : Release) : release ∈ all := by
  cases release <;> decide

def latest : Release := .v28

def number : Release → Nat
  | .v17 => 17
  | .v18 => 18
  | .v19 => 19
  | .v20 => 20
  | .v21 => 21
  | .v22 => 22
  | .v23 => 23
  | .v24 => 24
  | .v25 => 25
  | .v26 => 26
  | .v27 => 27
  | .v28 => 28

def ofNumber? (number : Int) : Option Release :=
  all.find? fun release => (release.number : Int) == number

theorem ofNumber?_eq_some_iff {number : Int} {release : Release} :
    ofNumber? number = some release ↔ number = release.number := by
  constructor
  · intro found
    have same := List.find?_some found
    exact (eq_of_beq same).symm
  · rintro rfl
    cases release <;> rfl

def text (release : Release) : String := s!"v{release.number}"

def name (release : Release) : String := s!"V{release.number}"

instance : LE Release := ⟨fun older newer => older.number ≤ newer.number⟩

instance : LT Release := ⟨fun older newer => older.number < newer.number⟩

instance (older newer : Release) : Decidable (older ≤ newer) :=
  inferInstanceAs (Decidable (older.number ≤ newer.number))

instance (older newer : Release) : Decidable (older < newer) :=
  inferInstanceAs (Decidable (older.number < newer.number))

/-- The version that the first server of a release reports. -/
def serverVersion (release : Release) : Int := release.number * 10000

def matchesServerVersion (release : Release) (version : Int) : Bool :=
  version.fdiv 10000 == release.number

/-- A name that is given for a release: a text or a number, or a boolean, which counts as one. -/
inductive Named where
  | text (text : String)
  | number (number : Int)
  | truth (value : Bool)
  deriving Repr, DecidableEq

def Named.shown : Named → String
  | .text given => Text.quoted given
  | .number given => toString given
  | .truth value => if value then "True" else "False"

/-- Why a name is not the name of a release. -/
inductive Unknown where
  | malformed (named : Named)
  | unsupported (named : Named)
  deriving Repr, DecidableEq

def Unknown.message : Unknown → String
  | .malformed named => s!"invalid protocol version: {named.shown}"
  | .unsupported named =>
    let known := ", ".intercalate (all.map Release.text)
    s!"unsupported protocol version {named.shown}, expected one of: {known}"

/-- The part of a version text that holds the release number: after blanks, an optional `v` in
either letter case and, in a dotted version, an initial part `0`, the text up to the first point. -/
def numberPart (text : List Char) : List Char :=
  let bare := Text.trim Text.isBlank text
  let unmarked :=
    match bare with
    | c :: rest => if c = 'v' ∨ c = 'V' then rest else bare
    | [] => []
  match Text.splitAt '.' unmarked with
  | ['0'] :: second :: _ => second
  | first :: _ => first
  | [] => []

def parseText (text : String) : Except Unknown Release :=
  match Number.readInteger (numberPart text.toList) with
  | .error _ => .error (.malformed (.text text))
  | .ok number =>
    match ofNumber? number with
    | some release => .ok release
    | none => .error (.unsupported (.text text))

def parse (named : Named) : Except Unknown Release :=
  match named with
  | .text text => parseText text
  | .number number =>
    match ofNumber? number with
    | some release => .ok release
    | none => .error (.unsupported named)
  | .truth value =>
    match ofNumber? (if value then 1 else 0) with
    | some release => .ok release
    | none => .error (.unsupported named)

theorem parse_number_eq_ok_iff {number : Int} {release : Release} :
    parse (.number number) = .ok release ↔ number = release.number := by
  rw [parse, ← ofNumber?_eq_some_iff]
  cases ofNumber? number <;> simp

def ofServerVersion (version : Int) : Except Unknown Release :=
  parse (.number (version.fdiv 10000))

end Release

end NodeClient
