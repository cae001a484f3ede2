import NodeClient.Json.Reader
import NodeClient.Proofs.Json.Members

/-! # What holds of every value that was read

The reader makes a value of a word, a number or a string, of the items of a list, or of the members of
an object, which it sets one after another. A property that passes from the parts to each of these holds
of every value that is read.
-/

namespace NodeClient

theorem Value.forall_mem_setMember {κ : Type} {holds : Value κ → Prop} {value : Value κ}
    {members : List (String × Value κ)} (name : String)
    (each : ∀ member ∈ members, holds member.2) (added : holds value) :
    ∀ member ∈ setMember name value members, holds member.2 := by
  induction members with
  | nil => exact List.forall_mem_singleton.mpr added
  | cons first rest ih =>
    obtain ⟨key, old⟩ := first
    rw [List.forall_mem_cons] at each
    rw [setMember]
    split_ifs
    · exact List.forall_mem_cons.mpr ⟨added, each.2⟩
    · exact List.forall_mem_cons.mpr ⟨each.1, ih each.2⟩

namespace Json

/-- A property that passes from the parts of a value to the value, as the reader makes it. -/
structure Kept (holds : Json → Prop) : Prop where
  word : ∀ word ∈ words, holds word.2
  number {text : List Char} {found : Json × List Char} (read : readNumber text = .ok found) :
    holds found.1
  text (text : String) : holds (.str text)
  list {items : List Json} (each : ∀ item ∈ items, holds item) : holds (.arr items)
  object {members : List (String × Json)} (distinct : (members.map Prod.fst).Nodup)
    (each : ∀ member ∈ members, holds member.2) : holds (.obj members)

variable {holds : Json → Prop}

/-- What a number of steps reads has a property: a value, the items of a list and the members of an
object, if those read before have it. -/
structure Reads (holds : Json → Prop) (steps : Nat) : Prop where
  value {text : List Char} {found : Json × List Char} (read : readValue steps text = .ok found) :
    holds found.1
  items {text : List Char} {found : List Json × List Char}
    (read : readItems steps text = .ok found) : ∀ item ∈ found.1, holds item
  members {before : List (String × Json)} {text : List Char}
    {found : List (String × Json) × List Char} (distinct : (before.map Prod.fst).Nodup)
    (each : ∀ member ∈ before, holds member.2) (read : readMembers steps before text = .ok found) :
    (found.1.map Prod.fst).Nodup ∧ ∀ member ∈ found.1, holds member.2

theorem Reads.readValue_succ {steps : Nat} (reads : Reads holds steps) (kept : Kept holds)
    {text : List Char} {found : Json × List Char} (read : readValue (steps + 1) text = .ok found) :
    holds found.1 := by
  cases text with
  | nil => exact nomatch read
  | cons c rest =>
    rw [readValue] at read
    split_ifs at read with quote bracket brace
    · split at read
      · exact Except.ok.inj read ▸ kept.text _
      · exact nomatch read
    · split at read
      · exact Except.ok.inj read ▸ kept.list fun _ listed => nomatch listed
      · split at read
        · next items after listed => exact Except.ok.inj read ▸ kept.list (reads.items listed)
        · exact nomatch read
    · have none : (([] : List (String × Json)).map Prod.fst).Nodup := List.nodup_nil
      split at read
      · exact Except.ok.inj read ▸ kept.object none fun _ listed => nomatch listed
      · split at read
        · next members after listed =>
          obtain ⟨distinct, each⟩ := reads.members none (fun _ listed => nomatch listed) listed
          exact Except.ok.inj read ▸ kept.object distinct each
        · exact nomatch read
    · split at read
      · next word found =>
        obtain ⟨entry, listed, rfl⟩ := Option.map_eq_some_iff.mp found
        exact Except.ok.inj read ▸ kept.word entry (List.mem_of_find?_eq_some listed)
      · exact kept.number read

theorem Reads.readItems_succ {steps : Nat} (reads : Reads holds steps) {text : List Char}
    {found : List Json × List Char} (read : readItems (steps + 1) text = .ok found) :
    ∀ item ∈ found.1, holds item := by
  rw [readItems] at read
  split at read
  · exact nomatch read
  · next item after first =>
    split at read
    · exact Except.ok.inj read ▸ List.forall_mem_singleton.mpr (reads.value first)
    · split at read
      · next items rest listed =>
        exact Except.ok.inj read ▸ List.forall_mem_cons.mpr ⟨reads.value first, reads.items listed⟩
      · exact nomatch read
    · exact nomatch read

theorem Reads.readMembers_succ {steps : Nat} (reads : Reads holds steps)
    {before : List (String × Json)} {text : List Char} {found : List (String × Json) × List Char}
    (distinct : (before.map Prod.fst).Nodup) (each : ∀ member ∈ before, holds member.2)
    (read : readMembers (steps + 1) before text = .ok found) :
    (found.1.map Prod.fst).Nodup ∧ ∀ member ∈ found.1, holds member.2 := by
  rw [readMembers.eq_def] at read
  dsimp only at read
  split at read
  · split at read
    · exact nomatch read
    · next name afterName named =>
      split at read
      · split at read
        · exact nomatch read
        · next value after valued =>
          have distinct' := Value.nodup_setMember name value distinct
          have each' := Value.forall_mem_setMember name each (reads.value valued)
          split at read
          · exact Except.ok.inj read ▸ ⟨distinct', each'⟩
          · exact reads.members distinct' each' read
          · exact nomatch read
      · exact nomatch read
  · exact nomatch read

/-- Any number of steps reads values with a property that is kept. -/
theorem Kept.reads (kept : Kept holds) (steps : Nat) : Reads holds steps := by
  induction steps with
  | zero => exact ⟨nofun, nofun, nofun⟩
  | succ steps reads =>
    exact ⟨reads.readValue_succ kept, reads.readItems_succ, reads.readMembers_succ⟩

/-- A property that is kept holds of every value that is read. -/
theorem Kept.of_read (kept : Kept holds) {text : String} {value : Json}
    (success : read text = .ok value) : holds value := by
  cases document : readDocument text.toList with
  | error fault => simp only [read, document, Except.mapError, reduceCtorEq] at success
  | ok found =>
    simp only [read, document, Except.mapError, Except.ok.injEq] at success
    subst success
    rw [readDocument.eq_def] at document
    split at document
    · exact nomatch document
    · split at document
      · exact nomatch document
      · next value after listed =>
        split at document
        · exact Except.ok.inj document ▸ (kept.reads _).value listed
        · exact nomatch document

end Json

end NodeClient
