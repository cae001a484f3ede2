import NodeClient.Json.Reader
import NodeClient.Json.Writer
import NodeClient.Proofs.Number.Shortest
import NodeClient.Proofs.Text.Digit

/-! # Numbers that were written

An integer is read back from its digits. A floating-point number is written with a fraction or with
an exponent, so it is not read as an integer, and the decimal that it is written with is rounded to
the number again.
-/

namespace NodeClient

open Text

namespace Json

/-- What may follow a value inside others: a comma or a closing bracket, or the end. -/
def Ends (rest : List Char) : Prop := ∀ c ∈ rest.head?, c = ',' ∨ c = ']' ∨ c = '\x7d'

/-- A text goes on neither with a digit nor with a point. -/
def Breaks (text : List Char) : Prop := ∀ c ∈ text.head?, asciiDigit? c = none ∧ c ≠ '.'

variable {rest : List Char}

theorem Ends.breaks (ends : Ends rest) : Breaks rest := by
  intro c first
  rcases ends c first with rfl | rfl | rfl <;> exact ⟨rfl, by decide⟩

theorem Breaks.stops (breaks : Breaks rest) : StopsDigits rest := fun c first => (breaks c first).1

end Json

namespace Number

open Json

/-- The parts of a number that is spelled with digits. A whole part does not begin with a zero unless
it is one. -/
structure Spelling where
  whole : List Char
  fraction : List Char
  exponent? : Option Int
  areDigits : AreDigits whole ∧ AreDigits fraction
  plain : whole = ['0'] ∨ whole ≠ [] ∧ whole.head? ≠ some '0'

namespace Spelling

def pointed : List Char → List Char
  | [] => []
  | digits => '.' :: digits

def marked : Option Int → List Char
  | none => []
  | some exponent => 'e' :: (if exponent < 0 then '-' else '+') :: decimal 2 exponent.natAbs

def text (spelling : Spelling) : List Char :=
  spelling.whole ++ (pointed spelling.fraction ++ marked spelling.exponent?)

/-- The characters of a number with its sign. -/
def signed (spelling : Spelling) (negative : Bool) : List Char :=
  if negative then '-' :: spelling.text else spelling.text

def decimal (spelling : Spelling) : Decimal :=
  ⟨ofDigits 10 ((spelling.whole ++ spelling.fraction).map digitValue),
    spelling.exponent?.getD 0 - spelling.fraction.length⟩

variable {rest : List Char}

theorem withSign_natAbs (value : Int) : withSign (decide (value < 0)) value.natAbs = value := by
  rw [withSign]
  split_ifs with below
  · have negative := of_decide_eq_true below
    omega
  · have nonneg := of_decide_eq_false (Bool.eq_false_iff.mpr below)
    omega

theorem exponentOf_marked (exponent? : Option Int) (ends : Ends rest) :
    exponentOf (marked exponent? ++ rest) = (exponent?, rest) := by
  cases exponent? with
  | none =>
    cases rest with
    | nil => rfl
    | cons c rest =>
      have other : ¬(c = 'e' ∨ c = 'E') := by
        rcases ends c rfl with rfl | rfl | rfl <;> decide
      exact if_neg other
  | some exponent =>
    have signs : signOf ((if exponent < 0 then '-' else '+') ::
        (Text.decimal 2 exponent.natAbs ++ rest)) =
        (decide (exponent < 0), Text.decimal 2 exponent.natAbs ++ rest) := by
      split_ifs with below
      · rw [signOf, decide_eq_true below]
      · rw [signOf, decide_eq_false below]
    have digits := asciiDigits_append (areDigits_decimal 2 exponent.natAbs) ends.breaks.stops
    rw [marked, List.cons_append, List.cons_append, exponentOf, if_pos (.inl rfl)]
    simp only [signs, digits]
    have spelled := ofDigits_decimal 2 exponent.natAbs
    cases values : (Text.decimal 2 exponent.natAbs).map digitValue with
    | nil => exact absurd (List.map_eq_nil_iff.mp values) (decimal_ne_nil 2 _)
    | cons first more =>
      rw [values] at spelled
      simp only [spelled, withSign_natAbs]

theorem fractionDigits_pointed {fraction : List Char} (each : AreDigits fraction)
    (breaks : Breaks rest) :
    fractionDigits (pointed fraction ++ rest) = (fraction.map digitValue, rest) := by
  cases fraction with
  | nil =>
    rw [pointed, List.nil_append, fractionDigits]
    · rfl
    · rintro after rfl
      exact (breaks '.' rfl).2 rfl
  | cons c digits =>
    rw [pointed, List.cons_append, fractionDigits, asciiDigits_append each breaks.stops]
    · rfl
    · exact fun none => nomatch none

theorem wholeDigits_append {whole : List Char} (each : AreDigits whole)
    (plain : whole = ['0'] ∨ whole ≠ [] ∧ whole.head? ≠ some '0') (stops : StopsDigits rest) :
    wholeDigits (whole ++ rest) = (whole.map digitValue, rest) := by
  rcases plain with rfl | ⟨some, first⟩
  · rfl
  · rw [wholeDigits, asciiDigits_append each stops]
    rintro after same
    cases whole with
    | nil => contradiction
    | cons c more =>
      rw [List.cons_append, List.cons.injEq] at same
      exact first (congrArg Option.some same.1)

theorem breaks_marked (exponent? : Option Int) (ends : Ends rest) :
    Breaks (marked exponent? ++ rest) := by
  cases exponent? with
  | none => exact ends.breaks
  | some exponent =>
    rintro c ⟨⟩
    exact ⟨rfl, by decide⟩

theorem stops_pointed (fraction : List Char) (breaks : Breaks rest) :
    StopsDigits (pointed fraction ++ rest) := by
  cases fraction with
  | nil => exact breaks.stops
  | cons c digits =>
    rintro c ⟨⟩
    rfl

theorem exists_digit (spelling : Spelling) :
    ∃ c more, spelling.whole = c :: more ∧ c.isDigit = true := by
  obtain ⟨whole, fraction, exponent?, ⟨each, _⟩, plain⟩ := spelling
  cases whole with
  | nil => rcases plain with none | ⟨some, _⟩ <;> contradiction
  | cons c more => exact ⟨c, more, rfl, each c List.mem_cons_self⟩

/-- A spelled number is read back: as an integer if it has neither a fraction nor an exponent. -/
theorem readNumber_signed (spelling : Spelling) (negative : Bool) (ends : Ends rest) :
    readNumber (spelling.signed negative ++ rest) =
      if spelling.fraction = [] ∧ spelling.exponent? = none then
        if digitLimit < spelling.whole.length then .error (.tooLong spelling.whole.length)
        else .ok (.int (withSign negative (ofDigits 10 (spelling.whole.map digitValue))), rest)
      else
        .ok (.float (Binary64.ofDecimal negative spelling.decimal.coefficient
          spelling.decimal.exponent), rest) := by
  obtain ⟨c, more, begins, digit⟩ := spelling.exists_digit
  have breaks := breaks_marked spelling.exponent? ends
  have readWhole := wholeDigits_append spelling.areDigits.1 spelling.plain
    (stops_pointed spelling.fraction breaks)
  have readFraction := fractionDigits_pointed spelling.areDigits.2 breaks
  have readExponent := exponentOf_marked spelling.exponent? ends
  have text : spelling.text ++ rest =
      spelling.whole ++ (pointed spelling.fraction ++ (marked spelling.exponent? ++ rest)) := by
    rw [Spelling.text, List.append_assoc, List.append_assoc]
  rw [begins, List.map_cons] at readWhole
  have read : readNumber (spelling.signed negative ++ rest) =
      if ((spelling.fraction.map digitValue).isEmpty && spelling.exponent?.isNone) = true then
        if digitLimit < ((c :: more).map digitValue).length then
          .error (.tooLong ((c :: more).map digitValue).length)
        else .ok (.int (withSign negative (ofDigits 10 ((c :: more).map digitValue))), rest)
      else
        .ok (.float (Binary64.ofDecimal negative
          (ofDigits 10 ((c :: more).map digitValue ++ spelling.fraction.map digitValue))
          (spelling.exponent?.getD 0 - (spelling.fraction.map digitValue).length)), rest) := by
    cases negative with
    | true =>
      rw [signed, if_pos rfl, List.cons_append, readNumber, text, begins, readWhole]
      simp only [readFraction, readExponent, List.map_cons]
    | false =>
      rw [signed, if_neg Bool.false_ne_true, readNumber]
      · rw [text, begins, readWhole]
        simp only [readFraction, readExponent, List.map_cons]
      · intro after same
        rw [text, begins, List.cons_append, List.cons.injEq] at same
        rw [same.1] at digit
        exact absurd digit (by decide)
  rw [read, decimal, begins]
  simp only [List.isEmpty_iff, List.map_eq_nil_iff, Bool.and_eq_true, Option.isNone_iff_eq_none,
    List.length_map, List.map_append]

/-- A text spells a decimal, and it is not read as an integer. -/
structure Spells (spelling : Spelling) (text : List Char) (decimal : Decimal) : Prop where
  text : spelling.text = text
  notIntegral : ¬(spelling.fraction = [] ∧ spelling.exponent? = none)
  value : spelling.decimal.value = decimal.value

section

variable {coefficient : Nat} {exponent : Int}

theorem plain_toDigits (nonzero : coefficient ≠ 0) :
    Nat.toDigits 10 coefficient ≠ [] ∧ (Nat.toDigits 10 coefficient).head? ≠ some '0' :=
  ⟨Nat.toDigits_ne_nil, head?_toDigits_ne_zero (Nat.pos_of_ne_zero nonzero)⟩

theorem plain_append {whole : List Char} (plain : whole ≠ [] ∧ whole.head? ≠ some '0')
    (more : List Char) : whole ++ more ≠ [] ∧ (whole ++ more).head? ≠ some '0' := by
  cases whole with
  | nil => exact absurd rfl plain.1
  | cons c others => exact ⟨List.cons_ne_nil _ _, plain.2⟩

theorem pointed_of_ne_nil {digits : List Char} (some : digits ≠ []) :
    pointed digits = '.' :: digits := by
  cases digits with
  | nil => contradiction
  | cons c more => rfl

/-- Zeros stand for a positive exponent. -/
theorem exists_spells_of_nonneg (nonzero : coefficient ≠ 0) (nonneg : 0 ≤ exponent) :
    ∃ spelling : Spelling, spelling.Spells
      (Nat.toDigits 10 coefficient ++ List.replicate exponent.toNat '0' ++ ['.', '0'])
      ⟨coefficient, exponent⟩ := by
  refine ⟨⟨_, ['0'], none, ⟨areDigits_append.mpr ⟨areDigits_toDigits _, areDigits_replicate _⟩,
    areDigits_replicate 1⟩, .inr (plain_append (plain_toDigits nonzero) _)⟩, rfl, ?_, ?_⟩
  · exact fun integral => nomatch integral.1
  · obtain ⟨count, rfl⟩ := Int.eq_ofNat_of_zero_le nonneg
    have zeros : List.replicate count '0' ++ ['0'] = List.replicate (count + 1) '0' :=
      List.replicate_succ'.symm
    rw [decimal, Decimal.value, Decimal.value, Int.toNat_natCast, List.append_assoc, zeros,
      ofDigits_append_replicate, ofDigits_toDigits]
    push_cast
    rw [zpow_natCast, pow_succ]
    norm_num
    ring

/-- A point stands among the digits. -/
theorem exists_spells_of_point (nonzero : coefficient ≠ 0) {order : Int}
    (placed : order = exponent + ((Nat.toDigits 10 coefficient).length - 1 : Nat))
    (negative : exponent < 0) (nonneg : 0 ≤ order) :
    ∃ spelling : Spelling, spelling.Spells
      ((Nat.toDigits 10 coefficient).take (order.toNat + 1) ++
        '.' :: (Nat.toDigits 10 coefficient).drop (order.toNat + 1)) ⟨coefficient, exponent⟩ := by
  have digits := areDigits_toDigits coefficient
  have plain := plain_toDigits nonzero
  have value := ofDigits_toDigits coefficient
  generalize Nat.toDigits 10 coefficient = text at *
  have whole : text.take (order.toNat + 1) ≠ [] ∧
      (text.take (order.toNat + 1)).head? ≠ some '0' := by
    cases text with
    | nil => exact absurd rfl plain.1
    | cons c others => exact ⟨List.cons_ne_nil _ _, plain.2⟩
  have fraction : (text.drop (order.toNat + 1)).length = -exponent := by
    rw [List.length_drop]
    omega
  have behind : text.drop (order.toNat + 1) ≠ [] := by
    intro none
    rw [none, List.length_nil] at fraction
    omega
  have each : AreDigits (text.take (order.toNat + 1)) ∧ AreDigits (text.drop (order.toNat + 1)) := by
    rwa [← areDigits_append, List.take_append_drop]
  refine ⟨⟨_, _, none, each, .inr whole⟩, ?_, ?_, ?_⟩
  · rw [Spelling.text]
    dsimp only
    rw [pointed_of_ne_nil behind, marked, List.append_nil]
  · exact fun integral => behind integral.1
  · rw [decimal, List.take_append_drop, value, fraction]
    simp

/-- Zeros stand between the point and the digits. -/
theorem exists_spells_of_zeros {order : Int}
    (placed : order = exponent + ((Nat.toDigits 10 coefficient).length - 1 : Nat))
    (negative : order < 0) :
    ∃ spelling : Spelling, spelling.Spells
      (['0', '.'] ++ List.replicate ((-order).toNat - 1) '0' ++ Nat.toDigits 10 coefficient)
      ⟨coefficient, exponent⟩ := by
  have some : 0 < (Nat.toDigits 10 coefficient).length := Nat.length_toDigits_pos
  have fraction : (List.replicate ((-order).toNat - 1) '0' ++
      Nat.toDigits 10 coefficient).length = -exponent := by
    rw [List.length_append, List.length_replicate]
    omega
  have behind : List.replicate ((-order).toNat - 1) '0' ++ Nat.toDigits 10 coefficient ≠ [] :=
    List.append_ne_nil_of_right_ne_nil _ Nat.toDigits_ne_nil
  refine ⟨⟨['0'], List.replicate ((-order).toNat - 1) '0' ++ Nat.toDigits 10 coefficient, none,
    ⟨areDigits_replicate 1, areDigits_append.mpr ⟨areDigits_replicate _, areDigits_toDigits _⟩⟩,
    .inl rfl⟩, ?_, ?_, ?_⟩
  · rw [Spelling.text]
    dsimp only
    rw [pointed_of_ne_nil behind, marked, List.append_nil, List.append_assoc]
    rfl
  · exact fun integral => behind integral.1
  · have digits : ofDigits 10 ((['0'] ++ (List.replicate ((-order).toNat - 1) '0' ++
        Nat.toDigits 10 coefficient)).map digitValue) = coefficient := by
      rw [← List.append_assoc, ← List.replicate_one, List.replicate_append_replicate,
        ofDigits_replicate_append, ofDigits_toDigits]
    rw [decimal, digits, fraction]
    simp

/-- One digit stands in front of the point, and the exponent is written. -/
theorem exists_spells_of_mark (nonzero : coefficient ≠ 0) {order : Int}
    (placed : order = exponent + ((Nat.toDigits 10 coefficient).length - 1 : Nat)) :
    ∃ spelling : Spelling, spelling.Spells
      ((match Nat.toDigits 10 coefficient with
        | [] => []
        | [single] => [single]
        | first :: more => first :: '.' :: more) ++
        'e' :: (if order < 0 then '-' else '+') :: Text.decimal 2 order.natAbs)
      ⟨coefficient, exponent⟩ := by
  have digits := areDigits_toDigits coefficient
  have plain := plain_toDigits nonzero
  have value := ofDigits_toDigits coefficient
  generalize Nat.toDigits 10 coefficient = text at *
  cases text with
  | nil => exact absurd rfl plain.1
  | cons first more =>
    obtain ⟨digit, others⟩ := List.forall_mem_cons.mp digits
    have each : AreDigits [first] ∧ AreDigits more :=
      ⟨List.forall_mem_singleton.mpr digit, others⟩
    refine ⟨⟨[first], more, some order, each, .inr ⟨List.cons_ne_nil _ _, plain.2⟩⟩, ?_, ?_, ?_⟩
    · cases more <;> rfl
    · exact fun integral => nomatch integral.2
    · have behind : order - more.length = exponent := by
        rw [placed, List.length_cons, Nat.add_sub_cancel]
        omega
      rw [decimal, List.singleton_append, value, Option.getD_some, behind]

/-- Every decimal is written in one of these ways. -/
theorem exists_spells (decimal : Decimal) :
    ∃ spelling : Spelling, spelling.Spells (Binary64.decimalText decimal) decimal := by
  obtain ⟨coefficient, exponent⟩ := decimal
  rw [Binary64.decimalText]
  dsimp only
  by_cases zero : coefficient = 0
  · rw [if_pos zero]
    refine ⟨⟨['0'], ['0'], none, ⟨areDigits_replicate 1, areDigits_replicate 1⟩, .inl rfl⟩, rfl, ?_, ?_⟩
    · exact fun integral => nomatch integral.1
    · rw [zero, Decimal.value, Decimal.value]
      simp [Spelling.decimal, ofDigits, digitValue]
  · rw [if_neg zero]
    split
    · split
      · next nonneg => exact exists_spells_of_nonneg zero nonneg
      · next negative =>
        split
        · next nonneg => exact exists_spells_of_point zero rfl (not_le.mp negative) nonneg
        · next below => exact exists_spells_of_zeros rfl (not_le.mp below)
    · exact exists_spells_of_mark zero rfl

end

end Spelling

end Number

namespace Json

open Number

variable {rest : List Char}

def spellingOf (value : Int) : Spelling where
  whole := Nat.toDigits 10 value.natAbs
  fraction := []
  exponent? := none
  areDigits := ⟨areDigits_toDigits _, areDigits_replicate 0⟩
  plain := by
    by_cases zero : value.natAbs = 0
    · exact .inl (congrArg (Nat.toDigits 10) zero)
    · exact .inr (Spelling.plain_toDigits zero)

theorem writtenInt_eq_signed (value : Int) :
    Value.writtenInt value = (spellingOf value).signed (decide (value < 0)) := by
  have text : (spellingOf value).text = Nat.toDigits 10 value.natAbs := List.append_nil _
  rw [Value.writtenInt, Spelling.signed, text]
  simp only [decide_eq_true_iff]

/-- An integer is read back unless it has too many digits. -/
theorem readNumber_writtenInt {value : Int}
    (short : (Nat.toDigits 10 value.natAbs).length ≤ digitLimit) (ends : Ends rest) :
    readNumber (Value.writtenInt value ++ rest) = .ok (.int value, rest) := by
  rw [writtenInt_eq_signed, Spelling.readNumber_signed _ _ ends, if_pos ⟨rfl, rfl⟩, spellingOf,
    if_neg (not_lt.mpr short), ofDigits_toDigits, Spelling.withSign_natAbs]

/-- One that has too many is refused with the count of them. -/
theorem readNumber_writtenInt_of_tooLong {value : Int}
    (long : digitLimit < (Nat.toDigits 10 value.natAbs).length) (ends : Ends rest) :
    readNumber (Value.writtenInt value ++ rest) =
      .error (.tooLong (Nat.toDigits 10 value.natAbs).length) := by
  rw [writtenInt_eq_signed, Spelling.readNumber_signed _ _ ends, if_pos ⟨rfl, rfl⟩, spellingOf,
    if_pos long]

theorem exists_signed_of_finite (negative : Bool) (significand : Nat) (exponent : Int) :
    ∃ spelling : Spelling,
      Value.writtenFloat (.finite negative significand exponent) = spelling.signed negative ∧
        spelling.Spells (Binary64.decimalText (Binary64.shortest significand exponent))
          (Binary64.shortest significand exponent) := by
  obtain ⟨spelling, spells⟩ := Spelling.exists_spells (Binary64.shortest significand exponent)
  refine ⟨spelling, ?_, spells⟩
  change (Binary64.text (.finite negative significand exponent)).toList = _
  rw [Binary64.text, Spelling.signed, spells.text]
  exact String.toList_ofList

/-- A finite number is read back. -/
theorem readNumber_writtenFloat {negative : Bool} {significand : Nat} {exponent : Int}
    (normal : Binary64.IsNormal significand exponent) (ends : Ends rest) :
    readNumber (Value.writtenFloat (.finite negative significand exponent) ++ rest) =
      .ok (.float (.finite negative significand exponent), rest) := by
  obtain ⟨spelling, written, spells⟩ := exists_signed_of_finite negative significand exponent
  rw [written, Spelling.readNumber_signed _ _ ends, if_neg spells.notIntegral,
    Binary64.ofDecimal_of_value_eq negative normal spells.value]

end Json

end NodeClient
