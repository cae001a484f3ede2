import NodeClient.Json.Reader
import NodeClient.Json.Writer
import NodeClient.Proofs.Text.Digit
import NodeClient.Proofs.Text.Utf8

/-! # Strings that were written

A character is written as itself, as an escape of one letter, or as the escapes of its UTF-16 units.
Each is read back as its units, and the units of a text are joined to the text again.
-/

namespace NodeClient

namespace Json

/-- The UTF-16 units of a character. -/
def unitsOf (c : Char) : List Nat :=
  if c.toNat < 0x10000 then [c.toNat]
  else [0xD800 + (c.toNat - 0x10000) / 0x400, 0xDC00 + (c.toNat - 0x10000) % 0x400]

variable {rest : List Char}

/-- The escape of a unit is read back, if the text goes on. -/
theorem readUnits_unitEscape (start : Nat) {unit : Nat} (small : unit < 0x10000)
    (more : rest ≠ []) :
    readUnits start (Value.unitEscape unit ++ rest) = withUnit unit (readUnits start rest) := by
  have spelled : unit? (Nat.digitChar (unit / 4096)) (Nat.digitChar (unit / 256 % 16))
      (Nat.digitChar (unit / 16 % 16)) (Nat.digitChar (unit % 16)) = some unit := by
    rw [unit?, Text.hexDigit?_digitChar (by omega), Text.hexDigit?_digitChar (by omega),
      Text.hexDigit?_digitChar (by omega), Text.hexDigit?_digitChar (by omega)]
    refine congrArg some ?_
    simp only [Text.ofDigits, List.foldl_cons, List.foldl_nil]
    omega
  have nonempty : rest.isEmpty = false := by
    rw [List.isEmpty_eq_false_iff]
    exact more
  rw [Value.unitEscape, Text.hexadecimal_four small]
  simp only [List.cons_append, List.nil_append, readUnits, nonempty, spelled]
  rfl

theorem readUnits_simple (start : Nat) {letter meant : Char} (other : letter ≠ 'u')
    (simple : simpleEscape? letter = some meant) :
    readUnits start ('\\' :: letter :: rest) = withUnit meant.toNat (readUnits start rest) := by
  rw [readUnits.eq_def]
  dsimp only
  rw [if_neg (by decide), if_pos rfl, if_neg other, simple]

theorem readUnits_plain (start : Nat) {c : Char} (quote : c ≠ '"') (backslash : c ≠ '\\')
    (visible : ¬ c.toNat < 0x20) :
    readUnits start (c :: rest) = withUnit c.toNat (readUnits start rest) := by
  rw [readUnits.eq_def]
  dsimp only
  rw [if_neg quote, if_neg backslash, if_neg visible]

theorem readUnits_quote (start : Nat) : readUnits start ('"' :: rest) = .ok ([], rest) := by
  rw [readUnits.eq_def]
  rfl

/-- A written character is read back as its units, if the text goes on. -/
theorem readUnits_writtenChar (start : Nat) (c : Char) (more : rest ≠ []) :
    readUnits start (Value.writtenChar c ++ rest) =
      (unitsOf c).foldr withUnit (readUnits start rest) := by
  rw [Value.writtenChar]
  split_ifs with quote backslash newline carriage tab backspace feed printable basic
  · subst quote
    exact readUnits_simple start (by decide) rfl
  · subst backslash
    exact readUnits_simple start (by decide) rfl
  · subst newline
    exact readUnits_simple start (by decide) rfl
  · subst carriage
    exact readUnits_simple start (by decide) rfl
  · subst tab
    exact readUnits_simple start (by decide) rfl
  · obtain rfl : c = Char.ofNat 8 := by rw [← backspace, Char.ofNat_toNat]
    exact readUnits_simple start (by decide) rfl
  · obtain rfl : c = Char.ofNat 12 := by rw [← feed, Char.ofNat_toNat]
    exact readUnits_simple start (by decide) rfl
  · rw [unitsOf, if_pos (by omega), List.singleton_append,
      readUnits_plain start quote backslash (by omega)]
    rfl
  · rw [unitsOf, if_pos basic, readUnits_unitEscape start basic more]
    rfl
  · have range := Text.toNat_ranges c
    rw [unitsOf, if_neg basic, List.append_assoc,
      readUnits_unitEscape start (by omega) (List.append_ne_nil_of_right_ne_nil _ more),
      readUnits_unitEscape start (by omega) more]
    rfl

/-- A written text is read back as its units, up to its closing quote. -/
theorem readUnits_written (start : Nat) (text : List Char) :
    readUnits start (text.flatMap Value.writtenChar ++ '"' :: rest) =
      .ok (text.flatMap unitsOf, rest) := by
  induction text with
  | nil => exact readUnits_quote start
  | cons c text ih =>
    rw [List.flatMap_cons, List.flatMap_cons, List.append_assoc,
      readUnits_writtenChar start c (List.append_ne_nil_of_right_ne_nil _ (List.cons_ne_nil _ _)), ih]
    rw [unitsOf]
    split_ifs <;> rfl

/-- The units of a character are joined to the character. -/
theorem joinUnits_unitsOf (c : Char) (units : List Nat) :
    joinUnits (unitsOf c ++ units) = c :: joinUnits units := by
  have range := Text.toNat_ranges c
  rw [unitsOf]
  split_ifs with basic
  · have single : isHighUnit c.toNat = false ∧ isLowUnit c.toNat = false := by
      rw [isHighUnit, isLowUnit]
      simp only [Bool.and_eq_false_iff, decide_eq_false_iff_not]
      omega
    cases units with
    | nil => simp [joinUnits, single]
    | cons unit units => simp [joinUnits, single]
  · have high : isHighUnit (0xD800 + (c.toNat - 0x10000) / 0x400) = true := by
      rw [isHighUnit]
      simp only [Bool.and_eq_true, decide_eq_true_iff]
      omega
    have low : isLowUnit (0xDC00 + (c.toNat - 0x10000) % 0x400) = true := by
      rw [isLowUnit]
      simp only [Bool.and_eq_true, decide_eq_true_iff]
      omega
    have joined : 0x10000 + (0xD800 + (c.toNat - 0x10000) / 0x400 - 0xD800) * 0x400 +
        (0xDC00 + (c.toNat - 0x10000) % 0x400 - 0xDC00) = c.toNat := by
      omega
    rw [List.cons_append, List.singleton_append, joinUnits, high, low, joined, Char.ofNat_toNat]
    rfl

theorem joinUnits_units (text : List Char) : joinUnits (text.flatMap unitsOf) = text := by
  induction text with
  | nil => rfl
  | cons c text ih => rw [List.flatMap_cons, joinUnits_unitsOf, ih]

/-- A string is read back after its opening quote. -/
theorem readString_written (text : String) :
    readString (text.toList.flatMap Value.writtenChar ++ '"' :: rest) = .ok (text, rest) := by
  rw [readString, readUnits_written]
  dsimp only
  rw [joinUnits_units, String.ofList_toList]

end Json

end NodeClient
