import NodeClient.Proofs.Json.Line
import NodeClient.Proofs.Json.Members
import NodeClient.Proofs.Json.Text

/-! # Reading what was written

The reader takes back every value from its text, whatever follows the text inside other values. It
takes one step for each bracket and each item, and both leave characters, so steps for twice the
length of a text are never used up.
-/

namespace NodeClient

/-- Whether a number is kept in the one form of finite numbers. -/
def Binary64.IsCanonical : Binary64 → Prop
  | .finite _ significand exponent => IsNormal significand exponent
  | _ => True

namespace Value

mutual

/-- Whether a value can be read: no integer has too many digits, numbers are in their one form, and
every object names each member once. -/
def Readable : Json → Prop
  | .int value => (Nat.toDigits 10 value.natAbs).length ≤ Number.digitLimit
  | .float number => number.IsCanonical
  | .arr items => ItemsReadable items
  | .obj members => (members.map Prod.fst).Nodup ∧ MembersReadable members
  | _ => True

def ItemsReadable : List Json → Prop
  | [] => True
  | item :: rest => Readable item ∧ ItemsReadable rest

def MembersReadable : List (String × Json) → Prop
  | [] => True
  | (_, value) :: rest => Readable value ∧ MembersReadable rest

end

theorem itemsReadable_of_forall {items : List Json} (each : ∀ item ∈ items, item.Readable) :
    ItemsReadable items := by
  induction items with
  | nil => exact trivial
  | cons item rest ih =>
    obtain ⟨first, others⟩ := List.forall_mem_cons.mp each
    exact ⟨first, ih others⟩

theorem notMem_of_nodup {κ : Type} {before members : List (String × Value κ)} {name : String}
    {value : Value κ} (distinct : ((before ++ (name, value) :: members).map Prod.fst).Nodup) :
    name ∉ before.map Prod.fst := by
  rw [List.map_append, List.map_cons, List.nodup_append] at distinct
  exact fun listed => distinct.2.2 name listed name List.mem_cons_self rfl

end Value

namespace Json

variable {rest : List Char}

/-- A character that begins no value is refused, so what is read begins with another one. -/
theorem begins_of_readValue {steps : Nat} {c : Char} {found : Json × List Char}
    (success : readValue steps (c :: rest) = .ok found) :
    isGap c = false ∧ c ≠ ']' ∧ c ≠ '\ufeff' := by
  have accepted : c ∉ [' ', '\t', '\n', '\r', ']', '\ufeff'] := by
    intro listed
    cases steps with
    | zero => exact nomatch success
    | succ steps =>
      have refused : readValue (steps + 1) (c :: rest) =
          .error (.syntaxAt .value (rest.length + 1)) := by
        simp only [List.mem_cons, List.not_mem_nil, or_false] at listed
        rcases listed with rfl | rfl | rfl | rfl | rfl | rfl <;> rfl
      exact nomatch refused.symm.trans success
  simp only [List.mem_cons, List.not_mem_nil, or_false, not_or] at accepted
  obtain ⟨space, tab, newline, carriage, bracket, mark⟩ := accepted
  refine ⟨?_, bracket, mark⟩
  simp only [isGap, space, tab, newline, carriage, decide_false, Bool.or_self]

theorem readWord?_eq_none {text : List Char} (other : ∀ word ∈ words, ¬ word.1 <+: text) :
    readWord? text = none := by
  rw [readWord?, Option.map_eq_none_iff, List.find?_eq_none]
  intro word listed found
  exact other word listed (List.isPrefixOf_iff_prefix.mp found)

/-- No word begins with a digit, or with a sign and a digit. -/
theorem not_prefix_of_isDigit {c : Char} (digit : c.isDigit = true) (tail : List Char) :
    (∀ word ∈ words, ¬ word.1 <+: c :: tail) ∧ ∀ word ∈ words, ¬ word.1 <+: '-' :: c :: tail := by
  have different {d : Char} (letter : d.isDigit = false) : ¬ d = c := by
    rintro rfl
    exact absurd (digit.symm.trans letter) (by decide)
  constructor
  · intro word listed found
    simp only [words, List.mem_cons, List.not_mem_nil, or_false] at listed
    rcases listed with rfl | rfl | rfl | rfl | rfl | rfl <;>
      exact different rfl (List.cons_prefix_cons.mp found).1
  · intro word listed found
    simp only [words, List.mem_cons, List.not_mem_nil, or_false] at listed
    rcases listed with rfl | rfl | rfl | rfl | rfl | rfl
    all_goals have second := (List.cons_prefix_cons.mp found).2
    all_goals first
      | exact absurd (List.cons_prefix_cons.mp found).1 (by decide)
      | exact different rfl (List.cons_prefix_cons.mp second).1

/-- What begins with a digit or with a sign and a digit is read as a number. -/
theorem readValue_signed (spelling : Number.Spelling) (negative : Bool) (steps : Nat) :
    readValue (steps + 1) (spelling.signed negative ++ rest) =
      readNumber (spelling.signed negative ++ rest) := by
  obtain ⟨c, more, begins, digit⟩ := spelling.exists_digit
  have different {d : Char} (letter : d.isDigit = false) : c ≠ d := by
    rintro rfl
    exact absurd (digit.symm.trans letter) (by decide)
  rw [Number.Spelling.signed, Number.Spelling.text, begins]
  cases negative with
  | true =>
    rw [if_pos rfl, List.cons_append, List.cons_append, List.cons_append, readValue,
      if_neg (by decide), if_neg (by decide), if_neg (by decide),
      readWord?_eq_none (not_prefix_of_isDigit digit _).2]
  | false =>
    rw [if_neg Bool.false_ne_true, List.cons_append, List.cons_append, readValue,
      if_neg (different rfl), if_neg (different rfl), if_neg (different rfl),
      readWord?_eq_none (not_prefix_of_isDigit digit _).1]

section

variable {steps : Nat} {text body tail : List Char} {item value : Json} {items : List Json}
  {name : String} {before members : List (String × Json)}

theorem skip_cons {c : Char} (visible : isGap c = false) : skip (c :: tail) = c :: tail := by
  rw [skip, List.dropWhile_cons, if_neg (by rw [visible]; exact Bool.false_ne_true)]

theorem isGap_eq_false_of_isDigit {c : Char} (digit : c.isDigit = true) : isGap c = false := by
  cases gap : isGap c with
  | false => rfl
  | true =>
    simp only [isGap, Bool.or_eq_true, decide_eq_true_eq] at gap
    rcases gap with ((rfl | rfl) | rfl) | rfl <;> exact absurd digit (by decide)

theorem skip_writtenInt (number : Int) :
    skip (Value.writtenInt number ++ rest) = Value.writtenInt number ++ rest := by
  obtain ⟨c, more, begins, digit⟩ := (spellingOf number).exists_digit
  rw [writtenInt_eq_signed, Number.Spelling.signed, Number.Spelling.text, begins]
  split_ifs
  · exact skip_cons rfl
  · exact skip_cons (isGap_eq_false_of_isDigit digit)

/-- What is read as a value begins with no blank and does not close a list. -/
theorem skip_of_readValue {found : Json × List Char} (success : readValue steps text = .ok found) :
    skip text = text ∧ ∀ after, text ≠ ']' :: after := by
  cases text with
  | nil => exact ⟨rfl, fun _ same => nomatch same⟩
  | cons c tail =>
    obtain ⟨visible, bracket, _⟩ := begins_of_readValue success
    exact ⟨skip_cons visible, fun _ same => bracket (List.cons.inj same).1⟩

theorem skip_of_readItems {found : List Json × List Char}
    (success : readItems steps text = .ok found) :
    skip text = text ∧ ∀ after, text ≠ ']' :: after := by
  cases steps with
  | zero => exact nomatch success
  | succ steps =>
    rw [readItems] at success
    cases read : readValue steps text with
    | error fault => exact nomatch (read ▸ success)
    | ok found => exact skip_of_readValue read

theorem quote_of_readMembers {found : List (String × Json) × List Char}
    (success : readMembers steps before text = .ok found) : ∃ tail, text = '"' :: tail := by
  cases steps with
  | zero => exact nomatch success
  | succ steps =>
    rw [readMembers.eq_def] at success
    dsimp only at success
    split at success
    · exact ⟨_, rfl⟩
    · exact nomatch success

theorem readValue_list (success : readItems steps body = .ok (items, rest)) :
    readValue (steps + 1) ('[' :: body) = .ok (.arr items, rest) := by
  obtain ⟨skipped, opens⟩ := skip_of_readItems success
  rw [readValue, if_neg (by decide), if_pos rfl, skipped]
  split
  · next after => exact absurd rfl (opens after)
  · rw [success]

theorem readItems_last (read : readValue steps text = .ok (item, ']' :: rest)) :
    readItems (steps + 1) text = .ok ([item], rest) := by
  rw [readItems, read]
  rfl

theorem readItems_next (read : readValue steps text = .ok (item, ',' :: tail))
    (others : readItems steps tail = .ok (items, rest)) :
    readItems (steps + 1) text = .ok (item :: items, rest) := by
  have skipped := (skip_of_readItems others).1
  have comma : skip (',' :: tail) = ',' :: tail := rfl
  rw [readItems, read]
  simp only [comma, skipped, others]

theorem readValue_object (success : readMembers steps [] body = .ok (members, rest)) :
    readValue (steps + 1) ('\x7b' :: body) = .ok (.obj members, rest) := by
  obtain ⟨tail, rfl⟩ := quote_of_readMembers success
  have quote : skip ('"' :: tail) = '"' :: tail := rfl
  rw [readValue, if_neg (by decide), if_neg (by decide), if_pos rfl, quote]
  split
  · next after same => exact nomatch same
  · rw [success]

/-- A string is written with its closing quote in front of what follows. -/
theorem writtenString_append (name : String) (after : List Char) :
    Value.writtenString name ++ after =
      '"' :: (name.toList.flatMap Value.writtenChar ++ '"' :: after) := by
  rw [Value.writtenString, List.cons_append, List.append_assoc, List.singleton_append]

theorem readMembers_last (read : readValue steps text = .ok (value, '\x7d' :: rest)) :
    readMembers (steps + 1) before (Value.writtenString name ++ ':' :: text) =
      .ok (Value.setMember name value before, rest) := by
  have colon : skip (':' :: text) = ':' :: text := rfl
  rw [writtenString_append, readMembers, readString_written]
  simp only [colon, (skip_of_readValue read).1, read]
  rfl

theorem readMembers_next (read : readValue steps text = .ok (value, ',' :: tail))
    (others : readMembers steps (Value.setMember name value before) tail = .ok (members, rest)) :
    readMembers (steps + 1) before (Value.writtenString name ++ ':' :: text) =
      .ok (members, rest) := by
  obtain ⟨body, rfl⟩ := quote_of_readMembers others
  have colon : skip (':' :: text) = ':' :: text := rfl
  rw [writtenString_append, readMembers, readString_written]
  simp only [colon, (skip_of_readValue read).1, read]
  exact others

theorem readMembers_of_error {number : Int} {fault : Fault}
    (failed : readValue steps (Value.writtenInt number ++ rest) = .error fault) :
    readMembers (steps + 1) before
      (Value.writtenString name ++ ':' :: (Value.writtenInt number ++ rest)) = .error fault := by
  have colon (tail : List Char) : skip (':' :: tail) = ':' :: tail := rfl
  rw [writtenString_append, readMembers, readString_written]
  simp only [colon, skip_writtenInt, failed]

theorem readValue_object_of_error {fault : Fault}
    (failed : readMembers steps [] (Value.writtenString name ++ text) = .error fault) :
    readValue (steps + 1) ('\x7b' :: (Value.writtenString name ++ text)) = .error fault := by
  have quote (tail : List Char) : skip ('"' :: tail) = '"' :: tail := rfl
  rw [writtenString_append] at failed ⊢
  rw [readValue, if_neg (by decide), if_neg (by decide), if_pos rfl, quote]
  split
  · next after same => exact nomatch same
  · rw [failed]

end

/-- A string is read back as a value. -/
theorem readValue_writtenString (text : String) (steps : Nat) :
    readValue (steps + 1) (Value.writtenString text ++ rest) = .ok (.str text, rest) := by
  rw [writtenString_append, readValue, if_pos rfl, readString_written]

theorem readValue_writtenInt {value : Int} (readable : (Value.int value : Json).Readable)
    (steps : Nat) (ends : Ends rest) :
    readValue (steps + 1) (Value.writtenInt value ++ rest) = .ok (.int value, rest) := by
  have number := readNumber_writtenInt readable ends
  rw [writtenInt_eq_signed] at number ⊢
  rw [readValue_signed, number]

theorem readValue_writtenInt_of_tooLong {value : Int}
    (long : Number.digitLimit < (Nat.toDigits 10 value.natAbs).length) (steps : Nat)
    (ends : Ends rest) :
    readValue (steps + 1) (Value.writtenInt value ++ rest) =
      .error (.tooLong (Nat.toDigits 10 value.natAbs).length) := by
  have number := readNumber_writtenInt_of_tooLong long ends
  rw [writtenInt_eq_signed] at number ⊢
  rw [readValue_signed, number]

theorem readValue_writtenFloat {number : Binary64} (canonical : number.IsCanonical) (steps : Nat)
    (ends : Ends rest) :
    readValue (steps + 1) (Value.writtenFloat number ++ rest) = .ok (.float number, rest) := by
  cases number with
  | nan => rfl
  | infinite negative =>
    cases negative with
    | true => rfl
    | false => rfl
  | finite negative significand exponent =>
    have read := @readNumber_writtenFloat rest negative significand exponent canonical ends
    obtain ⟨spelling, written, _⟩ := exists_signed_of_finite negative significand exponent
    rw [written] at read ⊢
    rw [readValue_signed, read]

mutual

/-- A written value is read back, whatever follows it inside others. -/
theorem readValue_written : ∀ (value : Json), value.Readable → ∀ {steps : Nat} {rest : List Char},
    2 * (Value.written value).length ≤ steps → Ends rest →
      readValue (steps + 1) (Value.written value ++ rest) = .ok (value, rest)
  | .null, _, _, _, _, _ => rfl
  | .bool true, _, _, _, _, _ => rfl
  | .bool false, _, _, _, _, _ => rfl
  | .int _, readable, _, _, _, ends => readValue_writtenInt readable _ ends
  | .float _, canonical, _, _, _, ends => readValue_writtenFloat canonical _ ends
  | .str text, _, _, _, _, _ => readValue_writtenString text _
  | .arr [], _, _, _, _, _ => rfl
  | .arr (item :: items), readable, steps, rest, enough, _ => by
    rw [Value.written, List.length_cons, List.length_append, List.length_singleton] at enough
    obtain ⟨left, rfl⟩ : ∃ left, steps = left + 2 := ⟨steps - 2, by omega⟩
    have read := @readItems_written (item :: items) readable (List.cons_ne_nil _ _) left rest
      (by omega)
    rw [Value.written, List.cons_append, List.append_assoc]
    exact readValue_list read
  | .obj [], _, _, _, _, _ => rfl
  | .obj ((name, value) :: members), readable, steps, rest, enough, _ => by
    rw [Value.written, List.length_cons, List.length_append, List.length_singleton] at enough
    obtain ⟨left, rfl⟩ : ∃ left, steps = left + 2 := ⟨steps - 2, by omega⟩
    have read := @readMembers_written ((name, value) :: members) readable.2 (List.cons_ne_nil _ _)
      [] readable.1 left rest (by omega)
    rw [Value.written, List.cons_append, List.append_assoc]
    exact readValue_object read

/-- Written items are read back up to the bracket that closes them. -/
theorem readItems_written : ∀ (items : List Json), Value.ItemsReadable items → items ≠ [] →
    ∀ {steps : Nat} {rest : List Char}, 2 * (Value.writtenItems items).length ≤ steps →
      readItems (steps + 2) (Value.writtenItems items ++ ']' :: rest) = .ok (items, rest)
  | [], _, inhabited, _, _, _ => absurd rfl inhabited
  | [item], readable, _, _, _, enough =>
    readItems_last (readValue_written item readable.1 enough (by simp [Ends]))
  | item :: next :: items, readable, _, steps, rest, enough => by
    rw [Value.writtenItems_cons_cons, List.length_append, List.length_cons] at enough
    obtain ⟨left, rfl⟩ : ∃ left, steps = left + 1 := ⟨steps - 1, by omega⟩
    have others := @readItems_written (next :: items) readable.2 (List.cons_ne_nil _ _) left rest
      (by omega)
    have read := @readValue_written item readable.1 (left + 1)
      (',' :: (Value.writtenItems (next :: items) ++ ']' :: rest)) (by omega) (by simp [Ends])
    rw [Value.writtenItems_cons_cons, List.append_assoc, List.cons_append]
    exact readItems_next read others

/-- Written members are read back up to the brace that closes them, behind those before them. -/
theorem readMembers_written : ∀ (members : List (String × Json)), Value.MembersReadable members →
    members ≠ [] → ∀ (before : List (String × Json)), ((before ++ members).map Prod.fst).Nodup →
    ∀ {steps : Nat} {rest : List Char}, 2 * (Value.writtenMembers members).length ≤ steps →
      readMembers (steps + 2) before (Value.writtenMembers members ++ '\x7d' :: rest) =
        .ok (before ++ members, rest)
  | [], _, inhabited, _, _, _, _, _ => absurd rfl inhabited
  | [(name, value)], readable, _, before, distinct, steps, rest, enough => by
    rw [Value.writtenMembers, List.length_append, List.length_cons] at enough
    have read := @readValue_written value readable.1 steps ('\x7d' :: rest) (by omega)
      (by simp [Ends])
    have fresh := Value.notMem_of_nodup distinct
    rw [Value.writtenMembers, List.append_assoc, List.cons_append, readMembers_last read,
      Value.setMember_of_notMem fresh]
  | (name, value) :: next :: members, readable, _, before, distinct, steps, rest, enough => by
    rw [Value.writtenMembers_cons_cons, List.length_append, List.length_cons, List.length_append,
      List.length_cons] at enough
    obtain ⟨left, rfl⟩ : ∃ left, steps = left + 1 := ⟨steps - 1, by omega⟩
    have fresh := Value.notMem_of_nodup distinct
    -- The first member joins those before it, as the reader sets it among them.
    have moved : before ++ (name, value) :: next :: members =
        before ++ [(name, value)] ++ next :: members := by
      rw [List.append_assoc, List.singleton_append]
    rw [moved] at distinct ⊢
    have others := @readMembers_written (next :: members) readable.2 (List.cons_ne_nil _ _)
      (before ++ [(name, value)]) distinct left rest (by omega)
    have read := @readValue_written value readable.1 (left + 1)
      (',' :: (Value.writtenMembers (next :: members) ++ '\x7d' :: rest)) (by omega)
      (by simp [Ends])
    rw [← Value.setMember_of_notMem fresh] at others
    rw [Value.writtenMembers_cons_cons, List.append_assoc, List.cons_append, List.append_assoc,
      List.cons_append, readMembers_next read others, Value.setMember_of_notMem fresh]

end

/-- What was written is read back. -/
theorem read_write {value : Json} (readable : value.Readable) :
    read (Value.write value) = .ok value := by
  have success := @readValue_written value readable _ [] le_rfl (fun _ first => nomatch first)
  rw [List.append_nil] at success
  have plain : readDocument (Value.written value) = .ok value := by
    rw [readDocument]
    · rw [(skip_of_readValue success).1, success]
      rfl
    · intro after marked
      rw [marked] at success
      exact (begins_of_readValue success).2.2 rfl
  rw [read, Value.write, String.toList_ofList, plain]
  rfl

/-- An object with an integer of too many digits can be spelled, but its text is not read. -/
theorem read_write_of_tooLong (name : String) {number : Int}
    (long : Number.digitLimit < (Nat.toDigits 10 number.natAbs).length) :
    read (Value.write (.obj [(name, .int number)] : Json)) =
      .error (.tooLong (Nat.toDigits 10 number.natAbs).length) := by
  have ends : Ends ['\x7d'] := fun c first => .inr (.inr (Option.some.inj first).symm)
  have text : Value.written (.obj [(name, .int number)] : Json) =
      '\x7b' :: (Value.writtenString name ++ ':' :: (Value.writtenInt number ++ ['\x7d'])) := by
    rw [Value.written, Value.writtenMembers, Value.written, List.append_assoc, List.cons_append]
  have fails : readDocument (Value.written (.obj [(name, .int number)] : Json)) =
      .error (.tooLong (Nat.toDigits 10 number.natAbs).length) := by
    rw [text, readDocument]
    · have value (steps : Nat) := readValue_writtenInt_of_tooLong long steps ends
      rw [skip_cons rfl, List.length_cons, Nat.mul_add_one,
        readValue_object_of_error (readMembers_of_error (value _))]
    · exact fun after marked => absurd (List.cons.inj marked).1 (by decide)
  rw [read, Value.write, String.toList_ofList, fails]
  rfl

end Json

end NodeClient
