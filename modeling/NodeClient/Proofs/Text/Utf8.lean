import NodeClient.Text.Utf8
import Mathlib.Tactic.NormNum

/-! # A text and its bytes

What the machine reads strictly is told by a relation with a rule for each step. Bytes may be read in
pieces, and the bytes of a character are read as the character, after which the machine stands between
two characters again. So the bytes of a text are read back as the text: strictly without a fault, and
leniently without a replacement.
-/

namespace NodeClient.Text

theorem toNat_ofNat {value : Nat} (bound : value < 256) : (UInt8.ofNat value).toNat = value :=
  UInt8.toNat_ofNat_of_lt' bound

/-- A code point is no half of a pair, and not beyond the last one. -/
theorem toNat_ranges (c : Char) : c.toNat < 0xD800 ∨ 0xDFFF < c.toNat ∧ c.toNat < 0x110000 :=
  c.valid

/-- A byte in range takes a partial character one step further. -/
theorem extend?_ofNat {char : PartialChar} {value : Nat} (byte : value < 256)
    (low : char.low ≤ value) (high : value ≤ char.high) :
    char.extend? (UInt8.ofNat value) = some ⟨char.missing - 1, 0x80, 0xBF,
      char.value * 64 + (value - 0x80), char.width + 1, char.first⟩ := by
  rw [PartialChar.extend?, toNat_ofNat byte, if_pos ⟨low, high⟩]

/-- The first byte of two. -/
theorem firstByte_of_two {high : Nat} (least : 2 ≤ high) (bound : high < 0x20) :
    firstByte (UInt8.ofNat (0xC0 + high)) = .partially ⟨1, 0x80, 0xBF, high, 1, 0xC0 + high⟩ := by
  rw [firstByte, toNat_ofNat (by omega), if_neg (by omega), if_neg (by omega), if_pos (by omega),
    Nat.add_sub_cancel_left]

/-- The first byte of three bounds the second one if it is the least or comes before the halves of
pairs. -/
theorem firstByte_of_three {high : Nat} (bound : high < 0x10) :
    firstByte (UInt8.ofNat (0xE0 + high)) = .partially
      ⟨2, if high = 0 then 0xA0 else 0x80, if high = 0xD then 0x9F else 0xBF, high, 1,
        0xE0 + high⟩ := by
  have least : 0xE0 + high = 0xE0 ↔ high = 0 := by omega
  have last : 0xE0 + high = 0xED ↔ high = 0xD := by omega
  rw [firstByte, toNat_ofNat (by omega), if_neg (by omega), if_neg (by omega), if_neg (by omega),
    if_pos (by omega), Nat.add_sub_cancel_left]
  simp only [least, last]

/-- The first byte of four bounds the second one if it is the least or the greatest. -/
theorem firstByte_of_four {high : Nat} (bound : high < 5) :
    firstByte (UInt8.ofNat (0xF0 + high)) = .partially
      ⟨3, if high = 0 then 0x90 else 0x80, if high = 4 then 0x8F else 0xBF, high, 1,
        0xF0 + high⟩ := by
  have least : 0xF0 + high = 0xF0 ↔ high = 0 := by omega
  have greatest : 0xF0 + high = 0xF4 ↔ high = 4 := by omega
  rw [firstByte, toNat_ofNat (by omega), if_neg (by omega), if_neg (by omega), if_neg (by omega),
    if_neg (by omega), if_pos (by omega), Nat.add_sub_cancel_left]
  simp only [least, greatest]

/-- Bytes are read as characters. The machine goes from one state, between two characters or inside
one, to another. -/
inductive Reads : Option PartialChar → List UInt8 → List Char → Option PartialChar → Prop where
  | nil (state : Option PartialChar) : Reads state [] [] state
  | whole {byte : UInt8} {c : Char} {bytes : List UInt8} {chars : List Char}
      {after : Option PartialChar} (first : firstByte byte = .whole c)
      (others : Reads none bytes chars after) : Reads none (byte :: bytes) (c :: chars) after
  | start {byte : UInt8} {char : PartialChar} {bytes : List UInt8} {chars : List Char}
      {after : Option PartialChar} (first : firstByte byte = .partially char)
      (others : Reads (some char) bytes chars after) : Reads none (byte :: bytes) chars after
  | last {char next : PartialChar} {byte : UInt8} {c : Char} {bytes : List UInt8}
      {chars : List Char} {after : Option PartialChar} (extended : char.extend? byte = some next)
      (complete : next.missing = 0) (spelled : Char.ofNat next.value = c)
      (others : Reads none bytes chars after) : Reads (some char) (byte :: bytes) (c :: chars) after
  | further {char next : PartialChar} {byte : UInt8} {bytes : List UInt8} {chars : List Char}
      {after : Option PartialChar} (extended : char.extend? byte = some next)
      (missing : next.missing ≠ 0) (others : Reads (some next) bytes chars after) :
      Reads (some char) (byte :: bytes) chars after

theorem withChar_eq_ok_iff {ε β : Type} {c : Char} {read : Except ε (List Char × β)}
    {chars : List Char} {after : β} :
    withChar c read = .ok (chars, after) ↔
      ∃ others, read = .ok (others, after) ∧ chars = c :: others := by
  cases read with
  | error error => simp [withChar]
  | ok found =>
    obtain ⟨others, state⟩ := found
    simp [withChar, and_comm, eq_comm]

section

variable {state after : Option PartialChar} {bytes front back : List UInt8} {chars : List Char}

/-- The relation tells the machine, which counts the place for its faults only. -/
theorem decodeFrom_eq_ok_iff {position : Nat} :
    decodeFrom position state bytes = .ok (chars, after) ↔ Reads state bytes chars after := by
  constructor
  · intro read
    induction bytes generalizing position state chars with
    | nil =>
      obtain ⟨rfl, rfl⟩ := Prod.mk.inj (Except.ok.inj read)
      exact .nil _
    | cons byte rest ih =>
      rw [decodeFrom.eq_def] at read
      cases state with
      | none =>
        cases first : firstByte byte with
        | whole c =>
          simp only [first, withChar_eq_ok_iff] at read
          obtain ⟨others, tail, rfl⟩ := read
          exact .whole first (ih tail)
        | partially char =>
          simp only [first] at read
          exact .start first (ih read)
        | invalid => simp [first] at read
      | some char =>
        cases extended : char.extend? byte with
        | none => simp [extended] at read
        | some next =>
          simp only [extended] at read
          split_ifs at read with complete
          · obtain ⟨others, tail, rfl⟩ := withChar_eq_ok_iff.mp read
            exact .last extended complete rfl (ih tail)
          · exact .further extended complete (ih read)
  · intro reads
    induction reads generalizing position with
    | nil => rfl
    | whole first _ ih => simp only [decodeFrom, first, ih, withChar]
    | start first _ ih => simp only [decodeFrom, first, ih]
    | last extended complete spelled _ ih =>
      simp only [decodeFrom, extended, complete, ↓reduceIte, spelled, ih, withChar]
    | further extended missing _ ih => simp only [decodeFrom, extended, missing, ↓reduceIte, ih]

/-- Bytes are read in pieces, one after another. -/
theorem reads_append_iff :
    Reads state (front ++ back) chars after ↔
      ∃ before middle others, Reads state front before middle ∧ Reads middle back others after ∧
        chars = before ++ others := by
  constructor
  · intro reads
    induction front generalizing state chars with
    | nil => exact ⟨[], state, chars, .nil state, reads, rfl⟩
    | cons byte rest ih =>
      cases reads with
      | whole first others =>
        obtain ⟨before, middle, more, one, two, rfl⟩ := ih others
        exact ⟨_, middle, more, .whole first one, two, rfl⟩
      | start first others =>
        obtain ⟨before, middle, more, one, two, rfl⟩ := ih others
        exact ⟨_, middle, more, .start first one, two, rfl⟩
      | last extended complete spelled others =>
        obtain ⟨before, middle, more, one, two, rfl⟩ := ih others
        exact ⟨_, middle, more, .last extended complete spelled one, two, rfl⟩
      | further extended missing others =>
        obtain ⟨before, middle, more, one, two, rfl⟩ := ih others
        exact ⟨_, middle, more, .further extended missing one, two, rfl⟩
  · rintro ⟨before, middle, others, one, two, rfl⟩
    induction one with
    | nil => exact two
    | whole first _ ih => exact .whole first (ih two)
    | start first _ ih => exact .start first (ih two)
    | last extended complete spelled _ ih => exact .last extended complete spelled (ih two)
    | further extended missing _ ih => exact .further extended missing (ih two)

/-- Bytes are read in one way. -/
theorem Reads.unique {others : List Char} {other : Option PartialChar}
    (one : Reads state bytes chars after) (two : Reads state bytes others other) :
    chars = others ∧ after = other := by
  have read : decodeFrom 0 state bytes = .ok (chars, after) := decodeFrom_eq_ok_iff.mpr one
  rw [decodeFrom_eq_ok_iff.mpr two] at read
  exact (Prod.mk.inj (Except.ok.inj read)).imp Eq.symm Eq.symm

/-- Where a strict reading ends between two characters, a lenient one replaces nothing. -/
theorem Reads.decodeLossyFrom_eq (reads : Reads state bytes chars after) (ended : after = none) :
    decodeLossyFrom state bytes = chars := by
  induction reads with
  | nil => rw [ended]; rfl
  | whole first _ ih =>
    simp only [decodeLossyFrom, Option.map_none, first, Option.isSome_none, Bool.false_eq_true,
      ↓reduceIte, List.nil_append, ih ended]
  | start first _ ih =>
    simp only [decodeLossyFrom, Option.map_none, first, Option.isSome_none, Bool.false_eq_true,
      ↓reduceIte, List.nil_append, ih ended]
  | last extended complete spelled _ ih =>
    simp only [decodeLossyFrom, Option.map_some, extended, complete, ↓reduceIte, spelled, ih ended]
  | further extended missing _ ih =>
    simp only [decodeLossyFrom, Option.map_some, extended, missing, ↓reduceIte, ih ended]

end

/-- The bytes of a character are read as the character. -/
theorem reads_charBytes (c : Char) : Reads none (charBytes c) [c] none := by
  have ranges := toNat_ranges c
  generalize given : c.toNat = value at ranges
  have same : Char.ofNat value = c := given ▸ Char.ofNat_toNat c
  rw [charBytes, given]
  split_ifs with one two three
  · refine .whole ?_ (.nil none)
    rw [firstByte, toNat_ofNat (by omega), if_pos one, same]
  · have whole : value / 64 * 64 + (0x80 + value % 64 - 0x80) = value := by omega
    refine .start (firstByte_of_two (by omega) (by omega)) ?_
    refine .last (extend?_ofNat (by omega) (by simp) (by simp only; omega)) rfl ?_ (.nil none)
    exact (congrArg Char.ofNat whole).trans same
  · have whole : (value / 4096 * 64 + (0x80 + value / 64 % 64 - 0x80)) * 64 +
        (0x80 + value % 64 - 0x80) = value := by omega
    refine .start (firstByte_of_three (by omega)) ?_
    refine .further (extend?_ofNat (by omega) (by simp only; split_ifs <;> omega)
      (by simp only; split_ifs <;> omega)) (by simp) ?_
    refine .last (extend?_ofNat (by omega) (by simp) (by simp only; omega)) rfl ?_ (.nil none)
    exact (congrArg Char.ofNat whole).trans same
  · have whole : ((value / 262144 * 64 + (0x80 + value / 4096 % 64 - 0x80)) * 64 +
        (0x80 + value / 64 % 64 - 0x80)) * 64 + (0x80 + value % 64 - 0x80) = value := by omega
    refine .start (firstByte_of_four (by omega)) ?_
    refine .further (extend?_ofNat (by omega) (by simp only; split_ifs <;> omega)
      (by simp only; split_ifs <;> omega)) (by simp) ?_
    refine .further (extend?_ofNat (by omega) (by simp) (by simp only; omega)) (by simp) ?_
    refine .last (extend?_ofNat (by omega) (by simp) (by simp only; omega)) rfl ?_ (.nil none)
    exact (congrArg Char.ofNat whole).trans same

/-- The bytes of a text are read as the text. -/
theorem reads_encode (text : List Char) : Reads none (encode text) text none := by
  induction text with
  | nil => exact .nil none
  | cons c rest ih =>
    rw [encode, List.flatMap_cons]
    exact reads_append_iff.mpr ⟨[c], none, rest, reads_charBytes c, ih, rfl⟩

theorem decode_encode (text : List Char) : decode (encode text) = .ok text := by
  rw [decode, decodeFrom_eq_ok_iff.mpr (reads_encode text)]

theorem decodeLossy_encode (text : String) : decodeLossy (encode text.toList) = text := by
  rw [decodeLossy, (reads_encode text.toList).decodeLossyFrom_eq rfl, String.ofList_toList]

end NodeClient.Text
