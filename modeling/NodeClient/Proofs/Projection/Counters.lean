import NodeClient.Projection.Peer
import NodeClient.Proofs.Shape.Rearrangement

/-! # The counters of a peer

A projection yields values of a property when its value has it, if there is one. The counters of a
peer are put in order, and no name occurs twice among them where no object names a member twice, so
they ascend strictly.
-/

namespace NodeClient

namespace Projected

variable {α β : Type}

/-- The value has a property, if there is one. -/
def Yields (projected : Projected α) (property : α → Prop) : Prop :=
  ∀ value, projected = .ok value → property value

theorem yields_any (projected : Projected α) : projected.Yields fun _ => True :=
  fun _ _ => trivial

theorem Yields.of_ok {property : α → Prop} {value : α} (holds : property value) :
    Yields (.ok value) property :=
  fun _ same => Except.ok.inj same ▸ holds

theorem Yields.bind {projected : Projected α} {next : α → Projected β} {property : α → Prop}
    {final : β → Prop} (first : projected.Yields property)
    (last : ∀ value, property value → (next value).Yields final) :
    Yields (projected >>= next) final := by
  intro result success
  cases projected with
  | error failure => exact nomatch success
  | ok value => exact last value (first value rfl) result success

theorem exists_of_map_eq_ok {projected : Projected α} {f : α → β} {result : β}
    (success : projected.map f = .ok result) : ∃ value, projected = .ok value ∧ f value = result := by
  cases projected with
  | error failure => exact nomatch success
  | ok value => exact ⟨value, rfl, Except.ok.inj success⟩

theorem Yields.each {project : α → Projected β} {property : β → Prop} {items : List α}
    (yields : ∀ item ∈ items, (project item).Yields property) :
    (each project items).Yields fun values => ∀ value ∈ values, property value := by
  induction items with
  | nil => exact .of_ok fun _ listed => absurd listed List.not_mem_nil
  | cons item rest ih =>
    obtain ⟨head, tail⟩ := List.forall_mem_cons.mp yields
    exact .bind head fun _ first => .bind (ih tail) fun _ others =>
      .of_ok (List.forall_mem_cons.mpr ⟨first, others⟩)

end Projected

def Ascending (counters : List (String × Int)) : Prop :=
  counters.Pairwise fun first second => first.1 < second.1

namespace Raw

/-- No counter of a record occurs twice. -/
def CountsOnce (raw : Raw) : Prop :=
  ∀ name entries, raw.member? name = some (.counters entries) → (entries.map Prod.fst).Nodup

theorem yields_countsAt {raw : Raw} (once : raw.CountsOnce) (name : String) :
    (raw.countsAt name).Yields Ascending := by
  intro value success
  rw [countsAt] at success
  split at success
  · next entries found =>
    rw [← Except.ok.inj success]
    exact pairwise_lt_mergeSort (once name entries found)
  · contradiction

end Raw

/-- The counters of a peer ascend strictly. -/
theorem PeerInfo.yields_ofRaw {raw : Raw} (once : raw.CountsOnce) :
    (ofRaw raw).Yields fun peer =>
      Ascending peer.bytesSentPerMessage ∧ Ascending peer.bytesRecvPerMessage := by
  rw [ofRaw]
  repeat
    refine .bind (by first | exact Raw.yields_countsAt once _ | exact Projected.yields_any _)
      fun _ _ => ?_
  exact .of_ok ⟨by assumption, by assumption⟩

namespace Shape

theorem eq_obj_of_read_counters {shape : Shape} {json : Json} {entries : List (String × Int)}
    (read : shape.read json = .ok (.counters entries)) :
    json = .obj (entries.map fun entry => (entry.1, .int entry.2)) := by
  cases shape with
  | counters =>
    cases json with
    | obj members =>
      obtain ⟨counts, counted, same⟩ := Reading.map_eq_ok_iff.mp read
      rw [← Raw.counters.inj same]
      exact congrArg Value.obj (counts_eq_ok_iff.mp counted)
    | _ => contradiction
  | number =>
    obtain ⟨value, other⟩ := exists_number_of_read read
    contradiction
  | list item =>
    obtain ⟨_, _, _, other, _⟩ := read_list_eq_ok_iff.mp read
    contradiction
  | record name fields =>
    obtain ⟨_, _, _, other, _⟩ := read_record_eq_ok_iff.mp read
    contradiction
  | _ => cases json <;> exact nomatch read

/-- Where no object names a member twice, no counter occurs twice. -/
theorem countsOnce_of_read {name : String} {fields : List Field} {json : Json} {raw : Raw}
    (distinct : json.NamesDistinct) (read : (Shape.record name fields).read json = .ok raw) :
    raw.CountsOnce := by
  obtain ⟨members, rows, rfl, rfl, success⟩ := read_record_eq_ok_iff.mp read
  intro counted entries found
  obtain ⟨before, after, rfl, _⟩ := List.lookup_eq_some_iff.mp found
  obtain ⟨field, _, _, held⟩ := exists_source_of_mem (readFields_eq_ok_iff.mp success)
    (List.mem_append_right before List.mem_cons_self)
  have source : ∃ json, Value.member? field.name members = some json ∧
      field.kind.read json = .ok (.counters entries) := by
    cases member : Value.member? field.name members with
    | none =>
      rw [readMember_of_none member] at held
      cases presence : field.presence <;> rw [presence] at held <;> exact nomatch held
    | some json =>
      by_cases null : field.presence = .orNull ∧ json = .null
      · rw [readMember_of_some_null (null.2 ▸ member) null.1] at held
        exact nomatch held
      · rw [readMember_of_some member null] at held
        exact ⟨json, rfl, held⟩
  obtain ⟨json, member, read⟩ := source
  obtain rfl := eq_obj_of_read_counters read
  obtain ⟨_, _, rfl, _⟩ := List.lookup_eq_some_iff.mp member
  have inner :=
    Value.namesDistinct_of_member distinct.2 (List.mem_append_right _ List.mem_cons_self)
  rw [Value.NamesDistinct, List.map_map] at inner
  exact inner.1

end Shape

end NodeClient
