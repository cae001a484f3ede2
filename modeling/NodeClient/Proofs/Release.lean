import NodeClient.Release
import NodeClient.Proofs.Number.Integer
import NodeClient.Proofs.Text.Cut

/-! # Names of a release

A version is written with the release number, a minor and a patch number, or as releases before 22 were:
with a zero, the release number and the minor number. A server reports it as one integer. Both lead to
the release of that number, if there is one.
-/

namespace NodeClient

namespace Text

theorem isBlank_eq_false_of_isDigit {c : Char} (digit : c.isDigit = true) : isBlank c = false := by
  have range : 48 ≤ c.toNat ∧ c.toNat ≤ 57 := Char.isDigit_iff_toNat.mp digit
  rw [← Bool.not_eq_true]
  intro blank
  simp only [isBlank, isSpace, Bool.or_eq_true, Bool.and_eq_true, decide_eq_true_eq,
    beq_iff_eq] at blank
  omega

end Text

namespace Release

open Text

/-- What may stand in front of a version to mark it as one. -/
def marks : List String := ["", "v", "V"]

/-- The texts that spell a version. -/
inductive Spells (major minor patch : Nat) : String → Prop where
  | dotted {before mark after : String} (blankBefore : ∀ c ∈ before.toList, isBlank c = true)
      (marked : mark ∈ marks) (blankAfter : ∀ c ∈ after.toList, isBlank c = true) :
      Spells major minor patch s!"{before}{mark}{major}.{minor}.{patch}{after}"
  | early {before mark after : String} (blankBefore : ∀ c ∈ before.toList, isBlank c = true)
      (marked : mark ∈ marks) (blankAfter : ∀ c ∈ after.toList, isBlank c = true) :
      Spells major minor patch s!"{before}{mark}0.{major}.{minor}{after}"

/-- The integer that a server reports for a version. -/
def reported (major minor patch : Nat) : Int := major * 10000 + minor * 100 + patch

variable {major minor patch : Nat} {release : Release}

/-- Among the parts of a dotted version, the one that holds the release number. -/
def numberAmong : List (List Char) → List Char
  | ['0'] :: second :: _ => second
  | first :: _ => first
  | [] => []

theorem marked_iff {mark : List Char} :
    mark ∈ marks.map String.toList ↔ mark = [] ∨ mark = ['v'] ∨ mark = ['V'] := by
  simp [marks]

theorem dot_notMem {text : List Char} (digits : AreDigits text) : '.' ∉ text :=
  fun listed => absurd (digits '.' listed) (by decide)

section

variable {before mark first second rest : List Char} (blank : ∀ c ∈ before, isBlank c = true)
  (marked : mark ∈ marks.map String.toList)

include blank marked

/-- Blanks and a mark in front of a dotted version do not count. -/
theorem numberPart_eq (nonempty : first ≠ []) (digits : AreDigits first) :
    numberPart (before ++ (mark ++ (first ++ '.' :: rest))) =
      numberAmong (first :: splitAt '.' (trimRight isBlank rest)) := by
  have undotted := dot_notMem digits
  obtain ⟨digit, more, rfl⟩ := List.exists_cons_of_ne_nil nonempty
  have numeric := digits digit List.mem_cons_self
  have unmarked : ¬ (digit = 'v' ∨ digit = 'V') := by
    rintro (rfl | rfl) <;> contradiction
  have begins : (mark ++ (digit :: more ++ '.' :: rest)).dropWhile isBlank =
      mark ++ (digit :: more ++ '.' :: rest) := by
    rcases marked_iff.mp marked with rfl | rfl | rfl
    · exact List.dropWhile_cons_of_neg (by rw [isBlank_eq_false_of_isDigit numeric]; decide)
    · rfl
    · rfl
  have trimmed : trim isBlank (before ++ (mark ++ (digit :: more ++ '.' :: rest))) =
      mark ++ (digit :: more ++ '.' :: trimRight isBlank rest) := by
    rw [trim, List.dropWhile_append_of_pos blank, begins, ← List.append_assoc,
      trimRight_append (by decide), List.append_assoc]
  rw [numberPart, trimmed, ← splitAt_append undotted]
  rcases marked_iff.mp marked with rfl | rfl | rfl
  · simp only [List.nil_append, List.cons_append, if_neg unmarked]
    rfl
  · rfl
  · rfl

/-- The release number of a dotted version is its first part. -/
theorem numberPart_dotted (nonempty : first ≠ []) (digits : AreDigits first)
    (late : first ≠ ['0']) :
    numberPart (before ++ (mark ++ (first ++ '.' :: rest))) = first := by
  rw [numberPart_eq blank marked nonempty digits, numberAmong]
  rintro _ _ rfl
  contradiction

/-- Behind a zero, the release number of a dotted version is its second part. -/
theorem numberPart_early (digits : AreDigits second) :
    numberPart (before ++ (mark ++ ('0' :: '.' :: (second ++ '.' :: rest)))) = second := by
  have zero : AreDigits ['0'] := areDigits_replicate 1
  have parts := @numberPart_eq before mark ['0'] (second ++ '.' :: rest) blank marked
    (List.cons_ne_nil _ _) zero
  rw [trimRight_append (by decide), splitAt_append (dot_notMem digits)] at parts
  exact parts

end

/-- A text that holds the digits of a number names the release of that number. Numbers that are too long
to be read have no release. -/
theorem parse_of_numberPart {text : String} (part : numberPart text.toList = Nat.toDigits 10 major) :
    parse (.text text) = .ok release ↔ (major : Int) = release.number := by
  rw [parse, parseText, part, Number.readInteger_of_numeral (Number.numeral_toDigits major),
    ← ofNumber?_eq_some_iff]
  split_ifs with long
  · refine iff_of_false (by simp) fun found => ?_
    have same : major = release.number := Int.ofNat_inj.mp (ofNumber?_eq_some_iff.mp found)
    rw [same] at long
    cases release <;> exact absurd long (by decide)
  · dsimp only
    cases ofNumber? major <;> simp

/-- Every release is named by its own text. -/
theorem parse_text (release : Release) : parse (.text release.text) = .ok release := by
  have part : numberPart release.text.toList = Nat.toDigits 10 release.number := by
    cases release <;> rfl
  exact (parse_of_numberPart part).mpr rfl

/-- Every text that spells a version names the release of its release number. -/
theorem Spells.parse_eq_ok_iff (positive : 0 < major) {text : String}
    (spells : Spells major minor patch text) :
    parse (.text text) = .ok release ↔ (major : Int) = release.number := by
  refine parse_of_numberPart ?_
  have digits := areDigits_toDigits major
  have late : Nat.toDigits 10 major ≠ ['0'] := fun zero =>
    head?_toDigits_ne_zero positive (congrArg List.head? zero)
  cases spells with
  | @dotted before mark after blank marked _ =>
    have spelled : s!"{before}{mark}{major}.{minor}.{patch}{after}".toList = before.toList ++
        (mark.toList ++ (Nat.toDigits 10 major ++
          '.' :: (Nat.toDigits 10 minor ++ '.' :: (Nat.toDigits 10 patch ++ after.toList)))) := by
      simp [String.toList_append, toString]
    rw [spelled]
    exact numberPart_dotted blank (List.mem_map_of_mem marked) Nat.toDigits_ne_nil digits late
  | @early before mark after blank marked _ =>
    have spelled : s!"{before}{mark}0.{major}.{minor}{after}".toList = before.toList ++
        (mark.toList ++ ('0' :: '.' :: (Nat.toDigits 10 major ++
          '.' :: (Nat.toDigits 10 minor ++ after.toList)))) := by
      simp [String.toList_append, toString]
    rw [spelled]
    exact numberPart_early blank (List.mem_map_of_mem marked) digits

theorem ofServerVersion_eq_ok_iff {version : Int} :
    ofServerVersion version = .ok release ↔ release.matchesServerVersion version = true := by
  rw [ofServerVersion, parse_number_eq_ok_iff, matchesServerVersion, beq_iff_eq]

/-- The versions that belong to a release begin with its first one, and end where those of the next
release would begin. -/
theorem matchesServerVersion_iff {version : Int} :
    release.matchesServerVersion version = true ↔
      release.serverVersion ≤ version ∧ version < release.serverVersion + 10000 := by
  rw [matchesServerVersion, beq_iff_eq, serverVersion, Int.fdiv_eq_ediv_of_nonneg _ (by decide)]
  omega

theorem matchesServerVersion_reported_iff (minorBound : minor < 100) (patchBound : patch < 100) :
    release.matchesServerVersion (reported major minor patch) = true ↔
      (major : Int) = release.number := by
  rw [matchesServerVersion_iff, serverVersion, reported]
  omega

/-- All ways of naming the release of a version agree: its texts and the integer that a server reports
lead to one release, the only one that the integer belongs to, or there is no such release. -/
theorem named_alike (positive : 0 < major) (minorBound : minor < 100) (patchBound : patch < 100) :
    (∃ release, ofServerVersion (reported major minor patch) = .ok release ∧
      (∀ text, Spells major minor patch text → parse (.text text) = .ok release) ∧
      ∀ other : Release,
        other.matchesServerVersion (reported major minor patch) = true ↔ other = release) ∨
    (∃ unknown, ofServerVersion (reported major minor patch) = .error unknown) ∧
      (∀ text, Spells major minor patch text → ∃ unknown, parse (.text text) = .error unknown) ∧
      ∀ other : Release, other.matchesServerVersion (reported major minor patch) = false := by
  have belongs (release : Release) :
      release.matchesServerVersion (reported major minor patch) = true ↔
        ofNumber? major = some release := by
    rw [matchesServerVersion_reported_iff minorBound patchBound, ofNumber?_eq_some_iff]
  have spelled (release : Release) {text : String} (spells : Spells major minor patch text) :
      parse (.text text) = .ok release ↔ ofNumber? major = some release := by
    rw [spells.parse_eq_ok_iff positive, ofNumber?_eq_some_iff]
  cases found : ofNumber? major with
  | some release =>
    refine .inl ⟨release, ofServerVersion_eq_ok_iff.mpr ((belongs release).mpr found),
      fun text spells => (spelled release spells).mpr found, fun other => ?_⟩
    rw [belongs, found, Option.some.injEq, eq_comm]
  | none =>
    refine .inr ⟨?_, fun text spells => ?_, fun other => ?_⟩
    · cases told : ofServerVersion (reported major minor patch) with
      | error unknown => exact ⟨unknown, rfl⟩
      | ok release =>
        rw [ofServerVersion_eq_ok_iff, belongs, found] at told
        contradiction
    · cases named : parse (.text text) with
      | error unknown => exact ⟨unknown, rfl⟩
      | ok release =>
        rw [spelled release spells, found] at named
        contradiction
    · rw [← Bool.not_eq_true, belongs, found]
      exact nofun

end Release

end NodeClient
