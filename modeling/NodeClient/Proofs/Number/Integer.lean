import NodeClient.Number.Integer
import NodeClient.Proofs.Text.Digit
import Mathlib.Data.List.Induction
import Mathlib.Data.List.TakeWhile

/-! # Numerals

A numeral is a run of decimal digits of any script. Of the texts that consist of digit characters, just
the numerals with at most `digitLimit` digits are read as integers, each as the number it denotes; a
decorative digit is part of no numeral.
-/

namespace NodeClient.Number

open Text

/-- A run of decimal digits with the number it denotes. -/
inductive Numeral : List Char → Nat → Prop where
  | digit {c : Char} {value : Nat} (read : decimalDigit? c = some value) : Numeral [c] value
  | append {text : List Char} {number : Nat} {c : Char} {value : Nat} (front : Numeral text number)
      (read : decimalDigit? c = some value) : Numeral (text ++ [c]) (10 * number + value)

theorem ofDigits_append_singleton (digits : List Nat) (digit : Nat) :
    ofDigits 10 (digits ++ [digit]) = 10 * ofDigits 10 digits + digit := by
  rw [ofDigits, List.foldl_append, Nat.mul_comm]
  rfl

/-- A numeral has decimal digits only, at least one, and denotes what their values spell. -/
theorem numeral_iff {text : List Char} {number : Nat} :
    Numeral text number ↔ text ≠ [] ∧ (∀ c ∈ text, (decimalDigit? c).isSome = true) ∧
      ofDigits 10 (text.filterMap decimalDigit?) = number := by
  constructor
  · intro numeral
    induction numeral with
    | digit read => simp [read, ofDigits]
    | @append text number c value front read ih =>
      obtain ⟨_, digits, denotes⟩ := ih
      refine ⟨List.append_ne_nil_of_right_ne_nil _ (List.cons_ne_nil _ _), ?_, ?_⟩
      · rw [List.forall_mem_append, List.forall_mem_singleton, read]
        exact ⟨digits, rfl⟩
      · rw [List.filterMap_append, List.filterMap_cons_some read, List.filterMap_nil,
          ofDigits_append_singleton, denotes]
  · rintro ⟨nonempty, digits, rfl⟩
    induction text using List.reverseRecOn with
    | nil => contradiction
    | append_singleton text c ih =>
      rw [List.forall_mem_append, List.forall_mem_singleton] at digits
      obtain ⟨value, read⟩ := Option.isSome_iff_exists.mp digits.2
      rw [List.filterMap_append, List.filterMap_cons_some read, List.filterMap_nil]
      cases text with
      | nil => simpa [ofDigits] using Numeral.digit read
      | cons first more =>
        rw [ofDigits_append_singleton]
        exact .append (ih (List.cons_ne_nil _ _) digits.1) read

/-- A numeral denotes one number. -/
theorem Numeral.unique {text : List Char} {number other : Nat} (one : Numeral text number)
    (two : Numeral text other) : number = other :=
  (numeral_iff.mp one).2.2.symm.trans (numeral_iff.mp two).2.2

theorem decimalDigit?_digitChar {digit : Nat} (small : digit < 10) :
    decimalDigit? (Nat.digitChar digit) = some digit := by
  interval_cases digit <;> rfl

/-- A number is denoted by the digits it is written with. -/
theorem numeral_toDigits (number : Nat) : Numeral (Nat.toDigits 10 number) number := by
  induction number using Nat.strongRecOn with
  | ind number ih =>
    by_cases small : number < 10
    · rw [Nat.toDigits_of_lt_base small]
      exact .digit (decimalDigit?_digitChar small)
    · have front := ih (number / 10) (by omega)
      have last := decimalDigit?_digitChar (Nat.mod_lt number (show 0 < 10 by decide))
      have whole := front.append last
      rw [Nat.div_add_mod] at whole
      rwa [Nat.toDigits_of_base_le (by decide) (by omega)]

/-- Among digit characters, a run of digits ends at the first decorative one. -/
theorem digitRun_of_digits {text : List Char} (digits : ∀ c ∈ text, isDigit c = true) :
    digitRun text =
      ((text.takeWhile fun c => (decimalDigit? c).isSome).filterMap decimalDigit?,
        text.dropWhile fun c => (decimalDigit? c).isSome) := by
  induction text with
  | nil => rfl
  | cons c rest ih =>
    obtain ⟨digit, others⟩ := List.forall_mem_cons.mp digits
    cases read : decimalDigit? c with
    | some value => simp [digitRun, read, ih others]
    | none =>
      have plain : c ≠ '_' := by
        rintro rfl
        exact absurd digit (by decide)
      simp [digitRun, read, plain]

/-- Digit characters have neither white space nor a sign in front. -/
theorem signOf_of_digits {text : List Char} (digits : ∀ c ∈ text, isDigit c = true) :
    signOf (text.dropWhile isSpace) = (false, text) := by
  cases text with
  | nil => rfl
  | cons c rest =>
    have digit := digits c List.mem_cons_self
    rw [List.dropWhile_cons_of_neg (by rw [isSpace_eq_false_of_isDigit digit]; decide), signOf]
    all_goals
      rintro _ ⟨⟩
      exact absurd digit (by decide)

theorem Numeral.digits {text : List Char} {number : Nat} (numeral : Numeral text number) :
    text ≠ [] ∧ ∀ c ∈ text, isDigit c = true := by
  obtain ⟨nonempty, decimal, _⟩ := numeral_iff.mp numeral
  exact ⟨nonempty, fun c listed => isDigit_of_decimal (decimal c listed)⟩

/-- A numeral is read as the number it denotes, unless it is too long. -/
theorem readInteger_of_numeral {text : List Char} {number : Nat} (numeral : Numeral text number) :
    readInteger text =
      if digitLimit < text.length then .error (.tooLong text.length) else .ok number := by
  obtain ⟨nonempty, digits⟩ := numeral.digits
  obtain ⟨_, decimal, denotes⟩ := numeral_iff.mp numeral
  obtain ⟨first, rest, rfl⟩ := List.exists_cons_of_ne_nil nonempty
  have leads : (decimalDigit? first).isNone = false := by
    rw [Option.isNone_eq_false_iff]
    exact decimal first List.mem_cons_self
  have length := List.filterMap_length_eq_length.mpr decimal
  simp only [readInteger, signOf_of_digits digits, digitRun_of_digits digits, leads,
    List.takeWhile_eq_self_iff.mpr decimal, List.dropWhile_eq_nil_iff.mpr decimal, length, denotes,
    List.all_nil, Bool.false_eq_true, ↓reduceIte]
  rfl

/-- Digit characters of which one is decorative are read as no integer. -/
theorem exists_fault_of_decorative {text : List Char} (digits : ∀ c ∈ text, isDigit c = true)
    (decorative : ∃ c ∈ text, decimalDigit? c = none) :
    ∃ fault, readInteger text = .error fault := by
  have left : text.dropWhile (fun c => (decimalDigit? c).isSome) ≠ [] := by
    obtain ⟨c, listed, none⟩ := decorative
    rw [ne_eq, List.dropWhile_eq_nil_iff]
    intro decimal
    have some := decimal c listed
    rw [none] at some
    contradiction
  obtain ⟨c, after, found⟩ := List.exists_cons_of_ne_nil left
  -- What is left begins with a digit character, so it is not white space.
  have listed : c ∈ text := (List.dropWhile_suffix _).subset (found ▸ List.mem_cons_self)
  have visible := isSpace_eq_false_of_isDigit (digits c listed)
  simp only [readInteger, signOf_of_digits digits, digitRun_of_digits digits, found, List.all_cons,
    visible, Bool.false_and, Bool.false_eq_true, ↓reduceIte]
  cases text with
  | nil => exact ⟨_, rfl⟩
  | cons first rest =>
    dsimp only
    split_ifs
    · exact ⟨_, rfl⟩
    · exact ⟨_, rfl⟩
    · exact ⟨_, rfl⟩

/-- A text is a numeral unless one of its characters is no decimal digit. -/
theorem numeral_or_decorative {text : List Char} (nonempty : text ≠ []) :
    (∃ number, Numeral text number) ∨ ∃ c ∈ text, decimalDigit? c = none := by
  by_cases decimal : ∀ c ∈ text, (decimalDigit? c).isSome = true
  · exact .inl ⟨_, numeral_iff.mpr ⟨nonempty, decimal, rfl⟩⟩
  · refine .inr ?_
    simpa only [not_forall, Bool.not_eq_true, Option.isSome_eq_false_iff, Option.isNone_iff_eq_none,
      exists_prop] using decimal

theorem Numeral.not_decorative {text : List Char} {number : Nat} (numeral : Numeral text number) :
    ¬ ∃ c ∈ text, decimalDigit? c = none := by
  rintro ⟨c, listed, none⟩
  have some := (numeral_iff.mp numeral).2.1 c listed
  rw [none] at some
  contradiction

section

variable {text : List Char} (nonempty : text ≠ []) (digits : ∀ c ∈ text, isDigit c = true)

include nonempty digits

/-- A text of digit characters is read as an integer exactly when it is a numeral that is not too
long. -/
theorem readInteger_eq_ok_iff {value : Int} :
    readInteger text = .ok value ↔
      text.length ≤ digitLimit ∧ ∃ number, Numeral text number ∧ value = number := by
  rcases numeral_or_decorative nonempty with ⟨number, numeral⟩ | decorative
  · rw [readInteger_of_numeral numeral]
    constructor
    · intro read
      split_ifs at read with long
      exact ⟨Nat.le_of_not_lt long, number, numeral, (Except.ok.inj read).symm⟩
    · rintro ⟨short, other, denotes, rfl⟩
      rw [if_neg (Nat.not_lt.mpr short), numeral.unique denotes]
  · obtain ⟨fault, read⟩ := exists_fault_of_decorative digits decorative
    simp only [read, reduceCtorEq, false_iff, not_and, not_exists]
    intro _ number denotes
    exact absurd decorative denotes.not_decorative

/-- A text of digit characters is no integer exactly when it is too long or not a numeral. -/
theorem exists_fault_iff :
    (∃ fault, readInteger text = .error fault) ↔
      digitLimit < text.length ∨ ∃ c ∈ text, decimalDigit? c = none := by
  rcases numeral_or_decorative nonempty with ⟨number, numeral⟩ | decorative
  · rw [readInteger_of_numeral numeral, or_iff_left numeral.not_decorative]
    split_ifs with long
    · simp only [Except.error.injEq, exists_eq', long]
    · simp only [exists_false, long]
  · simp only [exists_fault_of_decorative digits decorative, decorative, or_true]

end

end NodeClient.Number
