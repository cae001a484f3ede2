import NodeClient.Proofs.Json.Equality
import NodeClient.Proofs.Json.Reading

/-! # Names of the members that were read

The reader sets the members of an object one after another, so that a later one takes the place of an
earlier one of the same name. So every object in a value that was read, however deep, names each
member once.
-/

namespace NodeClient

namespace Value

variable {κ : Type}

theorem itemsDistinct_of_forall {items : List (Value κ)}
    (each : ∀ item ∈ items, item.NamesDistinct) : ItemsDistinct items := by
  induction items with
  | nil => trivial
  | cons item rest ih =>
    rw [List.forall_mem_cons] at each
    exact ⟨each.1, ih each.2⟩

theorem membersDistinct_of_forall {members : List (String × Value κ)}
    (each : ∀ member ∈ members, member.2.NamesDistinct) : MembersDistinct members := by
  induction members with
  | nil => trivial
  | cons member rest ih =>
    rw [List.forall_mem_cons] at each
    exact ⟨each.1, ih each.2⟩

end Value

namespace Json

theorem namesDistinct_of_readNumber {text : List Char} {found : Json × List Char}
    (success : readNumber text = .ok found) : found.1.NamesDistinct := by
  rw [readNumber.eq_def] at success
  dsimp only at success
  split at success
  · exact nomatch success
  · split_ifs at success <;> exact Except.ok.inj success ▸ trivial

theorem kept_namesDistinct : Kept Value.NamesDistinct where
  word := by simp [words, Value.NamesDistinct]
  number := namesDistinct_of_readNumber
  text _ := trivial
  list each := Value.itemsDistinct_of_forall each
  object distinct each := ⟨distinct, Value.membersDistinct_of_forall each⟩

/-- Every object in a value that was read names each member once. -/
theorem namesDistinct_of_read {text : String} {value : Json} (success : read text = .ok value) :
    value.NamesDistinct :=
  kept_namesDistinct.of_read success

end Json

end NodeClient
