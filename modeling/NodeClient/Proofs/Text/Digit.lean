import NodeClient.Text.Basic
import NodeClient.Text.Digit
import Mathlib.Tactic.IntervalCases
import Mathlib.Tactic.SplitIfs

/-! # Digits that were written

A number that was written in decimal is read back from its digits, whatever zeros stand in front and
whatever follows that is no digit. Four hexadecimal digits spell every number below `2 ^ 16`. No digit
is white space.
-/

namespace NodeClient.Text

def digitValue (c : Char) : Nat := c.toNat - 48

def AreDigits (text : List Char) : Prop := ∀ c ∈ text, c.isDigit = true

/-- A text does not go on with a decimal digit. -/
def StopsDigits (text : List Char) : Prop := ∀ c ∈ text.head?, asciiDigit? c = none

theorem asciiDigit?_of_isDigit {c : Char} (digit : c.isDigit = true) :
    asciiDigit? c = some (digitValue c) := by
  have range := Char.isDigit_iff_toNat.mp digit
  exact if_pos range

theorem areDigits_append {first second : List Char} :
    AreDigits (first ++ second) ↔ AreDigits first ∧ AreDigits second :=
  List.forall_mem_append

theorem areDigits_toDigits (number : Nat) : AreDigits (Nat.toDigits 10 number) :=
  fun _ listed => Nat.isDigit_of_mem_toDigits (by decide) (by decide) listed

theorem length_toDigits_pow (count : Nat) : (Nat.toDigits 10 (10 ^ count)).length = count + 1 := by
  apply le_antisymm
  · exact (Nat.length_toDigits_le_iff (by decide) (by omega)).mpr
      (Nat.pow_lt_pow_right (by decide) (by omega))
  · rcases Nat.eq_zero_or_pos count with rfl | positive
    · decide
    · rw [Nat.succ_le_iff, ← not_le, Nat.length_toDigits_le_iff (by decide) positive]
      exact lt_irrefl _

theorem areDigits_replicate (count : Nat) : AreDigits (List.replicate count '0') := by
  intro c listed
  rw [List.eq_of_mem_replicate listed]
  rfl

theorem areDigits_decimal (width number : Nat) : AreDigits (decimal width number) :=
  areDigits_append.mpr ⟨areDigits_replicate _, areDigits_toDigits number⟩

theorem decimal_ne_nil (width number : Nat) : decimal width number ≠ [] :=
  List.append_ne_nil_of_right_ne_nil _ Nat.toDigits_ne_nil

/-- A run of digits is read up to where it stops. -/
theorem asciiDigits_append {digits rest : List Char} (each : AreDigits digits)
    (stop : StopsDigits rest) : asciiDigits (digits ++ rest) = (digits.map digitValue, rest) := by
  induction digits with
  | nil =>
    cases rest with
    | nil => rfl
    | cons c rest =>
      have none : asciiDigit? c = none := stop c rfl
      rw [List.nil_append, asciiDigits, none]
      rfl
  | cons c digits ih =>
    obtain ⟨digit, others⟩ := List.forall_mem_cons.mp each
    rw [List.cons_append, asciiDigits, asciiDigit?_of_isDigit digit, ih others]
    rfl

theorem ofDigits_eq (digits : List Char) :
    ofDigits 10 (digits.map digitValue) = Nat.ofDigitChars 10 digits 0 := by
  rw [ofDigits, Nat.ofDigitChars_eq_foldl, List.foldl_map]
  congr 1
  funext value c
  rw [Nat.mul_comm]
  rfl

theorem ofDigits_toDigits (number : Nat) :
    ofDigits 10 ((Nat.toDigits 10 number).map digitValue) = number := by
  rw [ofDigits_eq, Nat.ofDigitChars_toDigits (by decide) (by decide)]

/-- Zeros in front do not count. -/
theorem ofDigits_replicate_append (count : Nat) (digits : List Char) :
    ofDigits 10 ((List.replicate count '0' ++ digits).map digitValue) =
      ofDigits 10 (digits.map digitValue) := by
  rw [ofDigits_eq, ofDigits_eq, Nat.ofDigitChars_append, Nat.ofDigitChars_replicate_zero, Nat.mul_zero]

/-- Zeros behind shift a number. -/
theorem ofDigits_append_replicate (digits : List Char) (count : Nat) :
    ofDigits 10 ((digits ++ List.replicate count '0').map digitValue) =
      ofDigits 10 (digits.map digitValue) * 10 ^ count := by
  rw [ofDigits_eq, ofDigits_eq, Nat.ofDigitChars_append, Nat.ofDigitChars_replicate_zero, Nat.mul_comm]

theorem ofDigits_decimal (width number : Nat) :
    ofDigits 10 ((decimal width number).map digitValue) = number := by
  rw [decimal, ofDigits_replicate_append, ofDigits_toDigits]

/-- A positive number does not begin with a zero. -/
theorem head?_toDigits_ne_zero {number : Nat} (positive : 0 < number) :
    (Nat.toDigits 10 number).head? ≠ some '0' := by
  induction number using Nat.strongRecOn with
  | ind number ih =>
    by_cases small : number < 10
    · rw [Nat.toDigits_of_lt_base small]
      interval_cases number <;> decide
    · have first := ih (number / 10) (by omega) (by omega)
      rw [Nat.toDigits_of_base_le (by decide) (by omega), List.head?_append]
      cases digits : Nat.toDigits 10 (number / 10) with
      | nil => exact absurd digits Nat.toDigits_ne_nil
      | cons c more =>
        rw [digits] at first
        exact first

theorem hexDigit?_digitChar {digit : Nat} (small : digit < 16) :
    hexDigit? (Nat.digitChar digit) = some digit := by
  interval_cases digit <;> rfl

theorem hexadecimal_succ {width : Nat} (positive : 0 < width) (value : Nat) :
    hexadecimal (width + 1) value =
      hexadecimal width (value / 16) ++ [Nat.digitChar (value % 16)] := by
  by_cases small : value < 16
  · have zero : value / 16 = 0 := by omega
    rw [hexadecimal, hexadecimal, zero, Nat.toDigits_of_lt_base small, Nat.toDigits_zero,
      Nat.mod_eq_of_lt small]
    obtain ⟨more, rfl⟩ := Nat.exists_eq_succ_of_ne_zero positive.ne'
    simp [List.replicate_succ']
  · rw [hexadecimal, hexadecimal, Nat.toDigits_of_base_le (by decide) (by omega)]
    simp

/-- The four digits of a number below `2 ^ 16`. -/
theorem hexadecimal_four {value : Nat} (small : value < 0x10000) :
    hexadecimal 4 value = [Nat.digitChar (value / 4096), Nat.digitChar (value / 256 % 16),
      Nat.digitChar (value / 16 % 16), Nat.digitChar (value % 16)] := by
  have top : value / 16 / 16 / 16 < 16 := by omega
  rw [hexadecimal_succ (by decide), hexadecimal_succ (by decide), hexadecimal_succ (by decide),
    hexadecimal, Nat.toDigits_of_lt_base top]
  simp [Nat.div_div_eq_div_mul]

def spaceCodePoints : List Nat :=
  [9, 10, 11, 12, 13, 0x20, 0x85, 0xA0, 0x1680, 0x2000, 0x2001, 0x2002, 0x2003, 0x2004, 0x2005, 0x2006,
   0x2007, 0x2008, 0x2009, 0x200A, 0x2028, 0x2029, 0x202F, 0x205F, 0x3000]

theorem mem_spaceCodePoints {c : Char} (space : isSpace c = true) : c.toNat ∈ spaceCodePoints := by
  simp only [isSpace, Bool.or_eq_true, Bool.and_eq_true, decide_eq_true_eq, beq_iff_eq] at space
  simp only [spaceCodePoints, List.mem_cons, List.not_mem_nil, or_false]
  omega

/-- A digit, decimal or decorative, is no white space. -/
theorem isSpace_eq_false_of_isDigit {c : Char} (digit : isDigit c = true) : isSpace c = false := by
  have none : ∀ code ∈ spaceCodePoints, isDigit (Char.ofNat code) = false := by decide
  rw [← Bool.not_eq_true]
  intro space
  have other := none c.toNat (mem_spaceCodePoints space)
  rw [Char.ofNat_toNat, digit] at other
  contradiction

theorem isDigit_of_decimal {c : Char} (decimal : (decimalDigit? c).isSome = true) :
    isDigit c = true := by
  rw [isDigit, decimal, Bool.true_or]

end NodeClient.Text
