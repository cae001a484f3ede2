import NodeClient.Proofs.Text.Utf8
import NodeClient.Text.Basic

/-! # Characters of more than one byte

The machine is never inside a character of one byte: what it completes from inside one is beyond ASCII,
and a byte of ASCII never goes on a character. So a line end is one byte of its own, both ways, and at
most three bytes are read before a character is complete.
-/

namespace NodeClient.Text

/-- What is known of a character of which some bytes are missing. -/
structure PartialChar.Sound (char : PartialChar) : Prop where
  missing : 0 < char.missing
  width : char.width + char.missing ≤ 4
  low : 0x80 ≤ char.low
  value : 0x80 ≤ (char.value * 64 + (char.low - 0x80)) * 64 ^ (char.missing - 1)

/-- The bytes that were read of a character, none between two of them. -/
def widthOf (state : Option PartialChar) : Nat := state.elim 0 PartialChar.width

/-- A byte that ends a line. -/
def EndsLine (byte : UInt8) : Prop := byte = 0x0A ∨ byte = 0x0D

instance (byte : UInt8) : Decidable (EndsLine byte) :=
  inferInstanceAs (Decidable (byte = 0x0A ∨ byte = 0x0D))

/-- Between two characters nothing is missing. -/
theorem sound_none : ∀ char ∈ (none : Option PartialChar), char.Sound := nofun

theorem sound_of_firstByte {byte : UInt8} {char : PartialChar}
    (first : firstByte byte = .partially char) : char.Sound ∧ char.width = 1 := by
  rw [firstByte] at first
  dsimp only at first
  split_ifs at first <;> cases first
  all_goals
    refine ⟨⟨?_, ?_, ?_, ?_⟩, rfl⟩
    all_goals dsimp only; omega

theorem PartialChar.Sound.extend {char next : PartialChar} {byte : UInt8} (sound : char.Sound)
    (extended : char.extend? byte = some next) :
    (next.missing = 0 → 0x80 ≤ next.value) ∧ (next.missing ≠ 0 → next.Sound) ∧
      next.width = char.width + 1 := by
  obtain ⟨missing, width, low, value⟩ := sound
  rw [extend?] at extended
  split_ifs at extended with within
  cases extended
  refine ⟨fun complete => ?_, fun more => ⟨Nat.pos_of_ne_zero more, ?_, Nat.le_refl _, ?_⟩, rfl⟩
  · dsimp only at complete ⊢
    rw [complete, Nat.pow_zero] at value
    omega
  · dsimp only
    omega
  · dsimp only at more ⊢
    obtain ⟨count, counted⟩ := Nat.exists_eq_add_of_le' (Nat.one_le_iff_ne_zero.mpr more)
    rw [counted] at value ⊢
    rw [Nat.add_sub_cancel, Nat.sub_self, Nat.add_zero, Nat.mul_assoc, ← Nat.pow_succ']
    refine value.trans (Nat.mul_le_mul_right _ ?_)
    omega

/-- A byte that ends a line is a character of its own. -/
theorem EndsLine.firstByte_eq {byte : UInt8} (ends : EndsLine byte) :
    firstByte byte = .whole (Char.ofNat byte.toNat) := by
  rcases ends with rfl | rfl <;> rfl

theorem EndsLine.isLineEnd_eq {byte : UInt8} (ends : EndsLine byte) :
    isLineEnd (Char.ofNat byte.toNat) = true := by
  rcases ends with rfl | rfl <;> rfl

/-- A byte that ends a line does not go on a character. -/
theorem EndsLine.extend?_eq {byte : UInt8} (ends : EndsLine byte) {char : PartialChar}
    (sound : char.Sound) : char.extend? byte = none := by
  have low := sound.low
  rw [PartialChar.extend?, if_neg]
  rcases ends with rfl | rfl <;> (rintro ⟨within, _⟩; simp at within; omega)

/-- Only two code points end a line. -/
theorem isLineEnd_ofNat {value : Nat} (feed : value ≠ 0x0A) (carriage : value ≠ 0x0D) :
    isLineEnd (Char.ofNat value) = false := by
  rw [isLineEnd, Bool.or_eq_false_iff, decide_eq_false_iff_not, decide_eq_false_iff_not]
  by_cases valid : value.isValidChar
  · have code : (Char.ofNat value).toNat = value := by
      rw [Char.ofNat, dif_pos valid]
      rfl
    exact ⟨fun same => feed (code.symm.trans (congrArg Char.toNat same)),
      fun same => carriage (code.symm.trans (congrArg Char.toNat same))⟩
  · -- A number that is no code point stands for the null character.
    rw [Char.ofNat, dif_neg valid]
    decide

/-- Among the characters of one byte, only those two bytes end a line. -/
theorem isLineEnd_of_firstByte {byte : UInt8} {c : Char} (first : firstByte byte = .whole c)
    (plain : ¬ EndsLine byte) : isLineEnd c = false := by
  rw [firstByte] at first
  dsimp only at first
  split_ifs at first
  obtain rfl := FirstByte.whole.inj first
  rw [EndsLine, not_or, ← UInt8.toNat_inj, ← UInt8.toNat_inj] at plain
  exact isLineEnd_ofNat plain.1 plain.2

namespace Reads

variable {state after : Option PartialChar} {bytes : List UInt8} {chars : List Char}

theorem sound (reads : Reads state bytes chars after) (known : ∀ char ∈ state, char.Sound) :
    ∀ char ∈ after, char.Sound := by
  induction reads with
  | nil => exact known
  | whole _ _ ih => exact ih sound_none
  | start first _ ih =>
    refine ih ?_
    rintro _ ⟨⟩
    exact (sound_of_firstByte first).1
  | last _ _ _ _ ih => exact ih sound_none
  | further extended missing _ ih =>
    refine ih ?_
    rintro _ ⟨⟩
    exact ((known _ rfl).extend extended).2.1 missing

/-- Bytes of which none ends a line are read as characters of which none does. -/
theorem unbroken (reads : Reads state bytes chars after) (known : ∀ char ∈ state, char.Sound)
    (plain : ∀ byte ∈ bytes, ¬ EndsLine byte) : ∀ c ∈ chars, isLineEnd c = false := by
  induction reads with
  | nil => exact List.forall_mem_nil _
  | whole first _ ih =>
    obtain ⟨head, tail⟩ := List.forall_mem_cons.mp plain
    exact List.forall_mem_cons.mpr ⟨isLineEnd_of_firstByte first head, ih sound_none tail⟩
  | start first _ ih =>
    refine ih ?_ (List.forall_mem_cons.mp plain).2
    rintro _ ⟨⟩
    exact (sound_of_firstByte first).1
  | last extended complete spelled _ ih =>
    have beyond := ((known _ rfl).extend extended).1 complete
    refine List.forall_mem_cons.mpr ⟨?_, ih sound_none (List.forall_mem_cons.mp plain).2⟩
    rw [← spelled, isLineEnd_ofNat (by omega) (by omega)]
  | further extended missing _ ih =>
    refine ih ?_ (List.forall_mem_cons.mp plain).2
    rintro _ ⟨⟩
    exact ((known _ rfl).extend extended).2.1 missing

/-- Where no character is complete, every byte belongs to the one that was begun. -/
theorem widthOf_eq (reads : Reads state bytes chars after) (known : ∀ char ∈ state, char.Sound)
    (empty : chars = []) : widthOf after = widthOf state + bytes.length := by
  induction reads with
  | nil => rfl
  | whole | last => exact nomatch empty
  | start first _ ih =>
    obtain ⟨sound, width⟩ := sound_of_firstByte first
    rw [ih (by rintro _ ⟨⟩; exact sound) empty, List.length_cons, widthOf, widthOf,
      Option.elim_some, width, Option.elim_none, Nat.zero_add, Nat.add_comm]
  | further extended missing _ ih =>
    obtain ⟨_, sound, width⟩ := (known _ rfl).extend extended
    rw [ih (by rintro _ ⟨⟩; exact sound missing) empty, List.length_cons, widthOf, widthOf,
      Option.elim_some, Option.elim_some, width]
    exact Nat.add_right_comm _ _ _

/-- At most three bytes are read before a character is complete. -/
theorem length_le (reads : Reads none bytes [] after) : bytes.length ≤ 3 := by
  have width := reads.widthOf_eq sound_none rfl
  have known := reads.sound sound_none
  cases after with
  | none =>
    simp only [widthOf, Option.elim_none] at width
    omega
  | some char =>
    obtain ⟨missing, total, _, _⟩ := known char rfl
    simp only [widthOf, Option.elim_none, Option.elim_some] at width
    omega

/-- A reading that ends between two characters without one has read nothing. -/
theorem eq_nil (reads : Reads none bytes [] none) : bytes = [] := by
  have width := reads.widthOf_eq sound_none rfl
  exact List.length_eq_zero_iff.mp (by simpa [widthOf] using width.symm)

end Reads

end NodeClient.Text
