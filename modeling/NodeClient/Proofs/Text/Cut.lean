import NodeClient.Text.Basic
import Mathlib.Data.List.Basic
import Mathlib.Data.List.Infix

/-! # What trimming and cutting leave

Trimming leaves what stands between two characters that are not trimmed, and folding line ends leaves a
text without carriage returns. A cut at the first or the last place of a separator is told by the two
parts alone: they give the text back with the separator between them, and one of the two does not hold
the separator.
-/

namespace NodeClient.Text

variable {separator text before after : List Char}

/-- What stands in front of a character that is not trimmed is not trimmed at the end. -/
theorem trimRight_append {drop : Char → Bool} {c : Char} (kept : drop c = false)
    (front rest : List Char) :
    trimRight drop (front ++ c :: rest) = front ++ c :: trimRight drop rest := by
  simp only [trimRight, List.reverse_append, List.reverse_cons, List.append_assoc,
    List.dropWhile_append, List.singleton_append, List.dropWhile_cons_of_neg (Bool.not_eq_true _ ▸ kept)]
  split_ifs with all
  · rw [List.isEmpty_iff.mp all]
    simp
  · simp

/-- A text that begins and ends with characters that are not trimmed is left as it is. -/
theorem trim_eq_self {drop : Char → Bool} {first last : Char} (kept : drop first = false)
    (keptLast : drop last = false) (middle : List Char) :
    trim drop (first :: (middle ++ [last])) = first :: (middle ++ [last]) := by
  have ends : trimRight drop [] = [] := rfl
  rw [trim, List.dropWhile_cons_of_neg (Bool.not_eq_true _ ▸ kept), ← List.cons_append,
    trimRight_append keptLast, ends]

theorem foldLines_eq_self (plain : '\r' ∉ text) : foldLines text = text := by
  induction text with
  | nil => rfl
  | cons c rest ih =>
    obtain ⟨other, plainRest⟩ := List.ne_and_not_mem_of_not_mem_cons plain
    rw [foldLines, ih plainRest]
    exact fun same => other same.symm

theorem eq_append_of_cutFirst? (cut : cutFirst? separator text = some (before, after)) :
    text = before ++ separator ++ after := by
  induction text generalizing before with
  | nil =>
    rw [cutFirst?] at cut
    split_ifs at cut with empty
    obtain ⟨rfl, rfl⟩ := Prod.mk.inj (Option.some.inj cut)
    rw [List.isEmpty_iff.mp empty, List.append_nil, List.append_nil]
  | cons c rest ih =>
    rw [cutFirst?] at cut
    split_ifs at cut with here
    · obtain ⟨rfl, rfl⟩ := Prod.mk.inj (Option.some.inj cut)
      obtain ⟨after, split⟩ := List.isPrefixOf_iff_prefix.mp here
      rw [← split, List.drop_left, List.nil_append]
    · obtain ⟨⟨front, back⟩, later, same⟩ := Option.map_eq_some_iff.mp cut
      obtain ⟨rfl, rfl⟩ := Prod.mk.inj same
      rw [ih later, List.cons_append, List.cons_append]

theorem not_infix_of_cutFirst? (nonempty : separator ≠ [])
    (cut : cutFirst? separator text = some (before, after)) : ¬ separator <:+: before := by
  induction text generalizing before with
  | nil =>
    rw [cutFirst?, if_neg (by simpa using nonempty)] at cut
    contradiction
  | cons c rest ih =>
    have split := eq_append_of_cutFirst? cut
    rw [cutFirst?] at cut
    split_ifs at cut with here
    · obtain ⟨rfl, _⟩ := Prod.mk.inj (Option.some.inj cut)
      exact List.infix_nil.not.mpr nonempty
    · obtain ⟨⟨front, back⟩, later, same⟩ := Option.map_eq_some_iff.mp cut
      obtain ⟨rfl, rfl⟩ := Prod.mk.inj same
      rw [List.infix_cons_iff, not_or]
      refine ⟨fun begins => here ?_, ih later⟩
      rw [List.isPrefixOf_iff_prefix, split, List.append_assoc]
      exact begins.trans (List.prefix_append _ _)

/-- Two different characters that stand together are found where they stand first. -/
theorem cutFirst?_append {a b : Char} (differ : a ≠ b) (free : ¬ [a, b] <:+: before) :
    cutFirst? [a, b] (before ++ a :: b :: after) = some (before, after) := by
  induction before with
  | nil => simp [cutFirst?]
  | cons c more ih =>
    rw [List.infix_cons_iff, not_or] at free
    have absent : ¬ [a, b] <+: c :: (more ++ a :: b :: after) := by
      intro begins
      obtain ⟨rfl, next⟩ := List.cons_prefix_cons.mp begins
      -- The second character would be the first one again, or stand in front of the place.
      cases more with
      | nil => exact differ (List.cons_prefix_cons.mp next).1.symm
      | cons d others =>
        obtain ⟨rfl, _⟩ := List.cons_prefix_cons.mp next
        exact free.1 ⟨others, rfl⟩
    rw [List.cons_append, cutFirst?, if_neg (List.isPrefixOf_iff_prefix.not.mpr absent), ih free.2]
    rfl

theorem cutFirst?_eq_some_iff {a b : Char} (differ : a ≠ b) :
    cutFirst? [a, b] text = some (before, after) ↔
      text = before ++ a :: b :: after ∧ ¬ [a, b] <:+: before := by
  constructor
  · intro cut
    refine ⟨?_, not_infix_of_cutFirst? (List.cons_ne_nil _ _) cut⟩
    rw [eq_append_of_cutFirst? cut, List.append_assoc]
    rfl
  · rintro ⟨rfl, free⟩
    exact cutFirst?_append differ free

/-- One character is found where it stands first. -/
theorem cutFirst?_singleton_append {c : Char} (free : c ∉ before) :
    cutFirst? [c] (before ++ c :: after) = some (before, after) := by
  induction before with
  | nil => simp [cutFirst?]
  | cons first more ih =>
    rw [List.mem_cons, not_or] at free
    rw [List.cons_append, cutFirst?, if_neg (by simpa using free.1), ih free.2]
    rfl

theorem cutFirst?_singleton_eq_some_iff {c : Char} :
    cutFirst? [c] text = some (before, after) ↔ text = before ++ c :: after ∧ c ∉ before := by
  constructor
  · intro cut
    refine ⟨?_, fun listed => not_infix_of_cutFirst? (List.cons_ne_nil _ _) cut ?_⟩
    · rw [eq_append_of_cutFirst? cut, List.append_assoc]
      rfl
    · exact (List.singleton_infix_iff _ _).mpr listed
  · rintro ⟨rfl, free⟩
    exact cutFirst?_singleton_append free

theorem cutFirst?_singleton_eq_none_iff {c : Char} : cutFirst? [c] text = none ↔ c ∉ text := by
  constructor
  · intro uncut listed
    obtain ⟨before, after, rfl, free⟩ := List.eq_append_cons_of_mem listed
    rw [cutFirst?_singleton_append free] at uncut
    contradiction
  · intro absent
    cases cut : cutFirst? [c] text with
    | none => rfl
    | some parts =>
      obtain ⟨rfl, _⟩ := cutFirst?_singleton_eq_some_iff.mp cut
      exact absurd (List.mem_append_right _ List.mem_cons_self) absent

theorem cutLast?_eq_none_iff {c : Char} : cutLast? c text = none ↔ c ∉ text := by
  induction text with
  | nil => simp [cutLast?]
  | cons first rest ih =>
    rw [cutLast?, List.mem_cons, not_or, ← ih]
    cases cutLast? c rest with
    | some parts => simp
    | none =>
      by_cases here : first = c
      · simp [here]
      · simp [here, Ne.symm here]

theorem eq_append_of_cutLast? {c : Char} (cut : cutLast? c text = some (before, after)) :
    text = before ++ c :: after ∧ c ∉ after := by
  induction text generalizing before with
  | nil => exact nomatch cut
  | cons first rest ih =>
    rw [cutLast?] at cut
    cases later : cutLast? c rest with
    | some parts =>
      obtain ⟨front, back⟩ := parts
      simp only [later, Option.some.injEq, Prod.mk.injEq] at cut
      obtain ⟨rfl, rfl⟩ := cut
      obtain ⟨split, absent⟩ := ih later
      exact ⟨by rw [split, List.cons_append], absent⟩
    | none =>
      rw [later] at cut
      dsimp only at cut
      split_ifs at cut with here
      obtain ⟨rfl, rfl⟩ := Prod.mk.inj (Option.some.inj cut)
      exact ⟨by rw [here, List.nil_append], cutLast?_eq_none_iff.mp later⟩

/-- A character is found where it stands last. -/
theorem cutLast?_append {c : Char} (absent : c ∉ after) :
    cutLast? c (before ++ c :: after) = some (before, after) := by
  induction before with
  | nil => rw [List.nil_append, cutLast?, cutLast?_eq_none_iff.mpr absent]; exact if_pos rfl
  | cons first more ih => rw [List.cons_append, cutLast?, ih]

theorem cutLast?_eq_some_iff {c : Char} :
    cutLast? c text = some (before, after) ↔ text = before ++ c :: after ∧ c ∉ after := by
  constructor
  · exact eq_append_of_cutLast?
  · rintro ⟨rfl, absent⟩
    exact cutLast?_append absent

/-- A text without the separator is one part. -/
theorem splitAt_of_notMem {c : Char} (absent : c ∉ text) : splitAt c text = [text] := by
  induction text with
  | nil => rfl
  | cons first rest ih =>
    rw [List.mem_cons, not_or] at absent
    rw [splitAt, if_neg (Ne.symm absent.1), ih absent.2]

/-- The first part ends where the separator stands first. -/
theorem splitAt_append {c : Char} (free : c ∉ before) :
    splitAt c (before ++ c :: after) = before :: splitAt c after := by
  induction before with
  | nil => rw [List.nil_append, splitAt, if_pos rfl]
  | cons first more ih =>
    rw [List.mem_cons, not_or] at free
    rw [List.cons_append, splitAt, if_neg (Ne.symm free.1), ih free.2]

/-- Parts that were put together with the separator between them are found again. -/
theorem splitAt_intercalate {c : Char} {parts : List (List Char)} (nonempty : parts ≠ [])
    (free : ∀ part ∈ parts, c ∉ part) : splitAt c ([c].intercalate parts) = parts := by
  induction parts with
  | nil => contradiction
  | cons part more ih =>
    obtain ⟨first, others⟩ := List.forall_mem_cons.mp free
    cases more with
    | nil => rw [List.intercalate_singleton, splitAt_of_notMem first]
    | cons next rest =>
      rw [List.intercalate_cons_cons, List.append_assoc, List.singleton_append,
        splitAt_append first, ih (List.cons_ne_nil _ _) others]

/-- No part holds the separator. -/
theorem notMem_of_mem_splitAt {c : Char} {part : List Char} (listed : part ∈ splitAt c text) :
    c ∉ part := by
  induction text generalizing part with
  | nil =>
    rw [splitAt, List.mem_singleton] at listed
    rw [listed]
    exact List.not_mem_nil
  | cons first rest ih =>
    rw [splitAt] at listed
    split_ifs at listed with here
    · rcases List.mem_cons.mp listed with rfl | later
      · exact List.not_mem_nil
      · exact ih later
    · split at listed
      · rw [List.mem_singleton.mp listed, List.mem_singleton]
        exact Ne.symm here
      · next front parts split =>
        rw [split] at ih
        rcases List.mem_cons.mp listed with rfl | later
        · exact List.not_mem_cons_of_ne_of_not_mem (Ne.symm here) (ih List.mem_cons_self)
        · exact ih (List.mem_cons_of_mem _ later)

end NodeClient.Text
