import NodeClient.Proofs.Json.Number
import NodeClient.Proofs.Text.Utf8

/-! # The characters of a line

A written value is one line of ASCII: strings hold escapes in place of control characters and of
whatever lies beyond ASCII, and everything else is written with letters, digits and punctuation.
Constants are written as strings and integers are, so a value is written alike whether or not
constants might stand in it.
-/

namespace NodeClient

namespace Text

/-- Whether a character is one of ASCII and no control character. -/
def IsVisible (c : Char) : Prop := 0x20 ≤ c.toNat ∧ c.toNat ≤ 0x7E

instance (c : Char) : Decidable (IsVisible c) := inferInstanceAs (Decidable (_ ∧ _))

def OnLine (text : List Char) : Prop := ∀ c ∈ text, IsVisible c

instance (text : List Char) : Decidable (OnLine text) := List.decidableBAll IsVisible text

theorem onLine_nil : OnLine [] := fun _ listed => nomatch listed

theorem onLine_cons {c : Char} {text : List Char} :
    OnLine (c :: text) ↔ IsVisible c ∧ OnLine text :=
  List.forall_mem_cons

theorem onLine_append {first second : List Char} :
    OnLine (first ++ second) ↔ OnLine first ∧ OnLine second :=
  List.forall_mem_append

theorem AreDigits.onLine {text : List Char} (digits : AreDigits text) : OnLine text := by
  intro c listed
  have range : 48 ≤ c.toNat ∧ c.toNat ≤ 57 := Char.isDigit_iff_toNat.mp (digits c listed)
  exact ⟨by omega, by omega⟩

theorem isVisible_digitChar {digit : Nat} (small : digit < 16) :
    IsVisible (Nat.digitChar digit) := by
  interval_cases digit <;> decide

theorem onLine_hexadecimal {value : Nat} (small : value < 0x10000) :
    OnLine (hexadecimal 4 value) := by
  rw [hexadecimal_four small]
  simp only [onLine_cons]
  exact ⟨isVisible_digitChar (by omega), isVisible_digitChar (by omega),
    isVisible_digitChar (by omega), isVisible_digitChar (by omega), onLine_nil⟩

end Text

open Text

namespace Number.Spelling

theorem onLine_signed (spelling : Spelling) (negative : Bool) :
    OnLine (spelling.signed negative) := by
  have fraction : OnLine (pointed spelling.fraction) := by
    cases digits : spelling.fraction with
    | nil => exact onLine_nil
    | cons c more => exact onLine_cons.mpr ⟨by decide, (digits ▸ spelling.areDigits.2).onLine⟩
  have exponent : OnLine (marked spelling.exponent?) := by
    cases spelling.exponent? with
    | none => exact onLine_nil
    | some exponent =>
      have sign : IsVisible (if exponent < 0 then '-' else '+') := by split_ifs <;> decide
      exact onLine_cons.mpr ⟨by decide, onLine_cons.mpr ⟨sign, (areDigits_decimal 2 _).onLine⟩⟩
  have unsigned : OnLine spelling.text :=
    onLine_append.mpr ⟨spelling.areDigits.1.onLine, onLine_append.mpr ⟨fraction, exponent⟩⟩
  rw [signed]
  split_ifs
  · exact onLine_cons.mpr ⟨by decide, unsigned⟩
  · exact unsigned

end Number.Spelling

namespace Value

theorem onLine_unitEscape {unit : Nat} (small : unit < 0x10000) : OnLine (unitEscape unit) :=
  onLine_cons.mpr ⟨by decide, onLine_cons.mpr ⟨by decide, onLine_hexadecimal small⟩⟩

theorem onLine_writtenChar (c : Char) : OnLine (writtenChar c) := by
  have range := toNat_ranges c
  rw [writtenChar]
  split_ifs with quote backslash newline carriage tab backspace feed visible basic
  iterate 7 decide
  · exact onLine_cons.mpr ⟨⟨visible.1, by omega⟩, onLine_nil⟩
  · exact onLine_unitEscape basic
  · exact onLine_append.mpr ⟨onLine_unitEscape (by omega), onLine_unitEscape (by omega)⟩

theorem onLine_writtenString (text : String) : OnLine (writtenString text) := by
  have inside : OnLine (text.toList.flatMap writtenChar) := by
    intro c listed
    obtain ⟨source, _, written⟩ := List.mem_flatMap.mp listed
    exact onLine_writtenChar source c written
  exact onLine_cons.mpr ⟨by decide, onLine_append.mpr ⟨inside, by decide⟩⟩

theorem onLine_writtenInt (number : Int) : OnLine (writtenInt number) := by
  rw [Json.writtenInt_eq_signed]
  exact Number.Spelling.onLine_signed _ _

theorem onLine_writtenFloat (number : Binary64) : OnLine (writtenFloat number) := by
  cases number with
  | nan => decide
  | infinite negative => cases negative <;> decide
  | finite negative significand exponent =>
    obtain ⟨spelling, written, _⟩ := Json.exists_signed_of_finite negative significand exponent
    rw [written]
    exact spelling.onLine_signed negative

variable {κ : Type}

theorem isNull_ofJson (value : Json) : (ofJson value : Value κ).isNull = value.isNull := by
  cases value with
  | const none => cases none
  | _ => rfl

variable [Constant κ]

theorem writtenItems_cons_cons (item next : Value κ) (items : List (Value κ)) :
    writtenItems (item :: next :: items) = written item ++ ',' :: writtenItems (next :: items) := by
  rw [writtenItems]
  exact List.cons_ne_nil next items

theorem writtenMembers_cons_cons (name : String) (value : Value κ) (next : String × Value κ)
    (members : List (String × Value κ)) :
    writtenMembers ((name, value) :: next :: members) =
      writtenString name ++ ':' :: (written value ++ ',' :: writtenMembers (next :: members)) := by
  rw [writtenMembers]
  exact List.cons_ne_nil next members

mutual

/-- A value is written on one line of ASCII. -/
theorem onLine_written : ∀ value : Value κ, OnLine (written value)
  | .null => by
    rw [written]
    decide
  | .bool value => by
    rw [written]
    cases value <;> decide
  | .int number => onLine_writtenInt number
  | .float number => onLine_writtenFloat number
  | .str text => onLine_writtenString text
  | .const value => by
    rw [written]
    cases Constant.meaning value with
    | text word => exact onLine_writtenString word
    | integer number => exact onLine_writtenInt number
    | other =>
      dsimp only
      decide
  | .arr items =>
    onLine_cons.mpr ⟨by decide, onLine_append.mpr ⟨onLine_writtenItems items, by decide⟩⟩
  | .obj members =>
    onLine_cons.mpr ⟨by decide, onLine_append.mpr ⟨onLine_writtenMembers members, by decide⟩⟩

theorem onLine_writtenItems : ∀ items : List (Value κ), OnLine (writtenItems items)
  | [] => onLine_nil
  | [item] => onLine_written item
  | item :: next :: items => by
    rw [writtenItems_cons_cons, onLine_append, onLine_cons]
    exact ⟨onLine_written item, by decide, onLine_writtenItems (next :: items)⟩

theorem onLine_writtenMembers : ∀ members : List (String × Value κ),
    OnLine (writtenMembers members)
  | [] => onLine_nil
  | [(name, value)] =>
    onLine_append.mpr ⟨onLine_writtenString name,
      onLine_cons.mpr ⟨by decide, onLine_written value⟩⟩
  | (name, value) :: next :: members => by
    rw [writtenMembers_cons_cons, onLine_append, onLine_cons, onLine_append, onLine_cons]
    exact ⟨onLine_writtenString name, by decide, onLine_written value, by decide,
      onLine_writtenMembers (next :: members)⟩

end

mutual

/-- A JSON value is written alike among values that may hold constants. -/
theorem written_ofJson : ∀ value : Json, written (ofJson value : Value κ) = written value
  | .null => rfl
  | .bool _ => rfl
  | .int _ => rfl
  | .float _ => rfl
  | .str _ => rfl
  | .arr items => by rw [ofJson, written, written, writtenItems_ofJson items]
  | .obj members => by rw [ofJson, written, written, writtenMembers_ofJson members]

theorem writtenItems_ofJson : ∀ items : List Json,
    writtenItems (ofJsonItems items : List (Value κ)) = writtenItems items
  | [] => rfl
  | [item] => written_ofJson item
  | item :: next :: items => by
    have others := writtenItems_ofJson (next :: items)
    rw [ofJsonItems] at others ⊢
    rw [ofJsonItems, writtenItems_cons_cons, writtenItems_cons_cons, written_ofJson item, others]

theorem writtenMembers_ofJson : ∀ members : List (String × Json),
    writtenMembers (ofJsonMembers members : List (String × Value κ)) = writtenMembers members
  | [] => rfl
  | [(name, value)] => by
    rw [ofJsonMembers, ofJsonMembers, writtenMembers, writtenMembers, written_ofJson value]
  | (name, value) :: (other, next) :: members => by
    have others := writtenMembers_ofJson ((other, next) :: members)
    rw [ofJsonMembers] at others ⊢
    rw [ofJsonMembers, writtenMembers_cons_cons, writtenMembers_cons_cons, written_ofJson value,
      others]

end

end Value

end NodeClient
