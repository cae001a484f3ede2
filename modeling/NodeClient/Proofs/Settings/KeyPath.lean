import NodeClient.Proofs.Json.Equality
import NodeClient.Proofs.Settings.Overlay

/-! # Objects laid over each other, path by path

A path of names leads from a value to one inside it. Where an object is laid over another, what stands
at a path is what the upper one has there, unless both have an object, whose members are then put
together; where the upper one has nothing, the lower one shows, unless the upper one has a value that
is no object on the way. So the empty object is neutral, and laying the same object over once more
changes nothing.
-/

namespace NodeClient

namespace Value

variable {κ : Type} {value : Value κ} {members : List (String × Value κ)} {name : String}

def IsObject (value : Value κ) : Prop := ∃ members, value = .obj members

/-- What a path of names leads to in a value. -/
def along? : List String → Value κ → Option (Value κ)
  | [], value => some value
  | name :: path, .obj members => (member? name members).bind (along? path)
  | _ :: _, _ => none

theorem along?_of_not_isObject (scalar : ¬ value.IsObject) (name : String) (path : List String) :
    along? (name :: path) value = none := by
  cases value with
  | obj members => exact absurd ⟨members, rfl⟩ scalar
  | _ => rfl

theorem namesDistinct_of_member? (distinct : MembersDistinct members)
    (found : member? name members = some value) : value.NamesDistinct := by
  obtain ⟨before, after, rfl, _⟩ := List.lookup_eq_some_iff.mp found
  exact namesDistinct_of_member distinct (List.mem_append_right before List.mem_cons_self)

end Value

namespace Settings

open Value

/-- Something that is no object stands on the way of a path, before its end. -/
def Blocks (holds : List String → Option Json) (path : List String) : Prop :=
  ∃ front back value, path = front ++ back ∧ back ≠ [] ∧ holds front = some value ∧ ¬ value.IsObject

/-- What stands at a path where one object is laid over another, given what each of the two has at
every path. -/
structure LaidOver (upper lower merged : List String → Option Json) (path : List String) : Prop where
  scalar : ∀ value, upper path = some value → ¬ value.IsObject → merged path = some value
  alone : ∀ value, upper path = some value → (∀ members, lower path ≠ some (.obj members)) →
    merged path = some value
  union : ∀ above below, upper path = some (.obj above) → lower path = some (.obj below) →
    ∃ members, merged path = some (.obj members) ∧ (members.map Prod.fst).Nodup ∧
      ∀ name, name ∈ members.map Prod.fst ↔ name ∈ above.map Prod.fst ∨ name ∈ below.map Prod.fst
  shown : upper path = none → ¬ Blocks upper path → merged path = lower path
  hidden : upper path = none → Blocks upper path → merged path = none

variable {name : String} {path : List String}

theorem not_blocks_nil (holds : List String → Option Json) : ¬ Blocks holds [] := by
  rintro ⟨front, back, _, parted, nonempty, _⟩
  exact nonempty (List.append_eq_nil_iff.mp parted.symm).2

/-- An object does not stand in the way of a path below it. -/
theorem blocks_cons_iff {holds : List String → Option Json}
    (object : ∀ value, holds [] = some value → value.IsObject) :
    Blocks holds (name :: path) ↔ Blocks (fun path => holds (name :: path)) path := by
  constructor
  · rintro ⟨front, back, value, parted, nonempty, stands, scalar⟩
    cases front with
    | nil => exact absurd (object value stands) scalar
    | cons first rest =>
      obtain ⟨rfl, rfl⟩ := List.cons.inj parted
      exact ⟨rest, back, value, rfl, nonempty, stands, scalar⟩
  · rintro ⟨front, back, value, rfl, nonempty, stands, scalar⟩
    exact ⟨name :: front, back, value, rfl, nonempty, stands, scalar⟩

/-- What is laid over is laid over below every name of an object. -/
theorem LaidOver.cons {upper lower merged : List String → Option Json}
    (object : ∀ value, upper [] = some value → value.IsObject)
    (below : LaidOver (fun path => upper (name :: path)) (fun path => lower (name :: path))
      (fun path => merged (name :: path)) path) :
    LaidOver upper lower merged (name :: path) where
  scalar := below.scalar
  alone := below.alone
  union := below.union
  shown absent free := below.shown absent (mt (blocks_cons_iff object).mpr free)
  hidden absent blocked := below.hidden absent ((blocks_cons_iff object).mp blocked)

section

variable {upper lower merged : List String → Option Json}

/-- Where the upper object has nothing at all, the lower one shows. -/
theorem LaidOver.of_absent (absent : ∀ path, upper path = none) (same : merged path = lower path) :
    LaidOver upper lower merged path where
  scalar value stands := nomatch (absent path).symm.trans stands
  alone value stands := nomatch (absent path).symm.trans stands
  union above _ stands := nomatch (absent path).symm.trans stands
  shown _ _ := same
  hidden _ blocked := by
    obtain ⟨front, _, _, _, _, stands, _⟩ := blocked
    exact nomatch (absent front).symm.trans stands

/-- Where the upper object is kept as it is, no object of the lower one must be put together with it,
and nothing of the lower one must show. -/
theorem LaidOver.of_same (same : merged path = upper path)
    (apart : ∀ above below, upper path = some (.obj above) → lower path ≠ some (.obj below))
    (covered : upper path = none → ¬ Blocks upper path → lower path = none) :
    LaidOver upper lower merged path where
  scalar _ stands _ := same.trans stands
  alone _ stands _ := same.trans stands
  union above below stands stands' := absurd stands' (apart above below stands)
  shown absent free := (same.trans absent).trans (covered absent free).symm
  hidden absent _ := same.trans absent

end

/-- What stands under a name where a member lies over another. -/
def overlayMember? (upper lower : Option Json) : Option Json :=
  (upper.map fun value => overlayValue value lower).or lower

section

variable {above below : List (String × Json)} {value : Json} {lower : Option Json}

/-- A value stands as it is, unless it is an object over an object. -/
theorem overlayValue_of_apart (apart : ¬ (value.IsObject ∧ ∃ below, lower = some (.obj below))) :
    overlayValue value lower = value := by
  by_cases object : value.IsObject
  · obtain ⟨members, rfl⟩ := object
    cases lower with
    | none => rw [overlayValue_none]
    | some under =>
      cases under with
      | obj below => exact absurd ⟨⟨members, rfl⟩, below, rfl⟩ apart
      | _ => rfl
  · exact overlayValue_of_ne_obj (not_exists.mp object) lower

/-- Such a value is what stands at every path that leads into it. -/
theorem laidOver_of_apart (apart : ¬ (value.IsObject ∧ ∃ below, lower = some (.obj below)))
    (path : List String) :
    LaidOver (fun path => along? path value) (fun path => lower.bind (along? path))
      (fun path => (overlayMember? (some value) lower).bind (along? path)) path := by
  rw [overlayMember?, Option.map_some, Option.some_or, overlayValue_of_apart apart]
  cases path with
  | nil =>
    refine .of_same rfl (fun above below stands stands' => apart ?_) fun absent => nomatch absent
    obtain ⟨under, found, same⟩ := Option.bind_eq_some_iff.mp stands'
    exact ⟨⟨above, Option.some.inj stands⟩, below, found.trans same⟩
  | cons name path =>
    by_cases object : value.IsObject
    · have empty : lower.bind (along? (name :: path)) = none := by
        cases lower with
        | none => rfl
        | some under =>
          refine along?_of_not_isObject (fun object' => apart ⟨object, ?_⟩) name path
          obtain ⟨below, rfl⟩ := object'
          exact ⟨below, rfl⟩
      exact .of_same rfl (fun _ _ _ stands => nomatch empty.symm.trans stands) fun _ _ => empty
    · have nothing := along?_of_not_isObject object name path
      refine .of_same rfl (fun _ _ stands => nomatch nothing.symm.trans stands) fun _ free => ?_
      exact absurd ⟨[], name :: path, value, rfl, List.cons_ne_nil name path, rfl, object⟩ free

theorem mem_names_overlay (distinct : (above.map Prod.fst).Nodup) :
    name ∈ (overlay above below).map Prod.fst ↔
      name ∈ above.map Prod.fst ∨ name ∈ below.map Prod.fst := by
  rw [← not_iff_not, not_or, ← member?_eq_none_iff, ← member?_eq_none_iff, ← member?_eq_none_iff,
    member?_overlay distinct, Option.or_eq_none_iff, Option.map_eq_none_iff]

theorem nodup_overlay (distinct : (below.map Prod.fst).Nodup) :
    ((overlay above below).map Prod.fst).Nodup := by
  induction above generalizing below with
  | nil => exact distinct
  | cons first rest ih => exact ih (nodup_setMember _ _ distinct)

/-- Two objects are put together under the names of both. -/
theorem LaidOver.of_objects (distinct : (above.map Prod.fst).Nodup)
    (distinct' : (below.map Prod.fst).Nodup) :
    LaidOver (fun path => along? path (.obj above)) (fun path => along? path (.obj below))
      (fun path => along? path (.obj (overlay above below))) [] where
  scalar value stands other := absurd ⟨above, (Option.some.inj stands).symm⟩ other
  alone value _ apart := absurd rfl (apart below)
  union upper lower stands stands' := by
    obtain rfl := Value.obj.inj (Option.some.inj stands)
    obtain rfl := Value.obj.inj (Option.some.inj stands')
    exact ⟨_, rfl, nodup_overlay distinct', fun name => mem_names_overlay distinct⟩
  shown absent := nomatch absent
  hidden absent := nomatch absent

end

/-- What stands at a path where one member lies over another. -/
theorem laidOver_overlayMember {upper lower : Option Json} (path : List String)
    (distinct : ∀ value, upper = some value → value.NamesDistinct)
    (distinct' : ∀ value, lower = some value → value.NamesDistinct) :
    LaidOver (fun path => upper.bind (along? path)) (fun path => lower.bind (along? path))
      (fun path => (overlayMember? upper lower).bind (along? path)) path := by
  cases upper with
  | none => exact .of_absent (fun _ => rfl) rfl
  | some value =>
    by_cases apart : value.IsObject ∧ ∃ below, lower = some (.obj below)
    · obtain ⟨⟨above, rfl⟩, below, rfl⟩ := apart
      obtain ⟨names, inside⟩ := distinct _ rfl
      obtain ⟨names', inside'⟩ := distinct' _ rfl
      cases path with
      | nil => exact LaidOver.of_objects names names'
      | cons name path =>
        -- Below a name the members of that name lie over each other.
        have inner := @laidOver_overlayMember (member? name above) (member? name below) path
          (fun _ => namesDistinct_of_member? inside) (fun _ => namesDistinct_of_member? inside')
        rw [overlayMember?, ← member?_overlay names] at inner
        exact .cons (fun _ top => ⟨above, (Option.some.inj top).symm⟩) inner
    · exact laidOver_of_apart apart path

/-! ## Laying the same object over again -/

/-- An object changes nothing when all its members lie there already. -/
theorem overlay_of_settled {upper lower : List (String × Json)}
    (settled : ∀ member ∈ upper, ∃ value, member? member.1 lower = some value ∧
      overlayValue member.2 (some value) = value) :
    overlay upper lower = lower := by
  induction upper with
  | nil => rfl
  | cons first rest ih =>
    obtain ⟨⟨value, found, same⟩, others⟩ := List.forall_mem_cons.mp settled
    rw [overlay_cons, found, same, setMember_of_member? found, ih others]

/-- An object whose values change nothing when they are laid over again changes nothing itself. -/
theorem overlay_again_of_members {upper : List (String × Json)} (distinct : (upper.map Prod.fst).Nodup)
    (again : ∀ member ∈ upper, ∀ lower, overlayValue member.2 (some (overlayValue member.2 lower)) =
      overlayValue member.2 lower) (lower : List (String × Json)) :
    overlay upper (overlay upper lower) = overlay upper lower := by
  refine overlay_of_settled fun member listed => ?_
  have given : member? member.1 upper = some member.2 := lookup_eq_some_of_nodup distinct listed
  have stands : member? member.1 (overlay upper lower) =
      some (overlayValue member.2 (member? member.1 lower)) := by
    rw [member?_overlay distinct, given, Option.map_some, Option.some_or]
  exact ⟨_, stands, again member listed _⟩

mutual

/-- A value that was laid over changes nothing when it is laid over again. -/
theorem overlayValue_again : ∀ value : Json, value.NamesDistinct → ∀ lower,
    overlayValue value (some (overlayValue value lower)) = overlayValue value lower
  | .obj upper, distinct, lower => by
    have again := overlay_again_of_members distinct.1 (overlayMembers_again upper distinct.2)
    by_cases object : ∃ below, lower = some (.obj below)
    · obtain ⟨below, rfl⟩ := object
      exact congrArg Value.obj (again below)
    · have self := again []
      rw [overlay_nil distinct.1] at self
      rw [overlayValue_of_apart fun both => object both.2]
      exact congrArg Value.obj self
  | .null, _, _ | .bool _, _, _ | .int _, _, _ | .float _, _, _ | .str _, _, _ | .arr _, _, _ => rfl

/-- `overlayValue_again` for every member's value. -/
theorem overlayMembers_again : ∀ members : List (String × Json), MembersDistinct members →
    ∀ member ∈ members, ∀ lower,
      overlayValue member.2 (some (overlayValue member.2 lower)) = overlayValue member.2 lower
  | [], _, _, listed => absurd listed List.not_mem_nil
  | (_, value) :: rest, distinct, member, listed => by
    rcases List.mem_cons.mp listed with rfl | later
    · exact overlayValue_again value distinct.1
    · exact overlayMembers_again rest distinct.2 member later

end

/-- Objects are laid over each other path by path: at every path stands what the upper object has
there, an object put together of both where both have one, and what the lower object has where the
upper one has nothing and no value in the way. Nothing is changed by laying the empty object over, by
laying over the empty object, or by laying the same object over again. -/
theorem overlay_along_paths {upper lower : List (String × Json)}
    (distinct : (Value.obj upper : Json).NamesDistinct)
    (distinct' : (Value.obj lower : Json).NamesDistinct) :
    (∀ path, LaidOver (fun path => along? path (.obj upper)) (fun path => along? path (.obj lower))
      (fun path => along? path (.obj (overlay upper lower))) path) ∧
    overlay [] lower = lower ∧ overlay upper [] = upper ∧
    overlay upper (overlay upper lower) = overlay upper lower := by
  refine ⟨fun path => ?_, rfl, overlay_nil distinct.1, ?_⟩
  · exact @laidOver_overlayMember (some (.obj upper)) (some (.obj lower)) path
      (fun _ same => Option.some.inj same ▸ distinct) (fun _ same => Option.some.inj same ▸ distinct')
  · exact overlay_again_of_members distinct.1 (overlayMembers_again upper distinct.2) lower

/-- A text in the way of a path hides what is below it, an empty object takes the place of a number, and
the members of two objects are put together. -/
theorem overlay_along_paths_blocked :
    let lower : List (String × Json) :=
      [("a", .obj [("x", .int 1), ("y", .obj [("z", .int 2)])]), ("b", .int 3)]
    let upper : List (String × Json) :=
      [("a", .obj [("y", .str "t"), ("w", .null)]), ("b", .obj [])]
    let merged : Json := .obj (overlay upper lower)
    along? ["a", "x"] merged = some (.int 1) ∧ along? ["a", "y", "z"] merged = none ∧
      along? ["b"] merged = some (.obj []) ∧
      ∃ members, along? ["a"] merged = some (.obj members) ∧ (members.map Prod.fst).Nodup ∧
        ∀ name, name ∈ members.map Prod.fst ↔ name ∈ ["y", "w"] ∨ name ∈ ["x", "y"] := by
  intro lower upper merged
  have paths := (@overlay_along_paths upper lower (by simp [upper, NamesDistinct, MembersDistinct])
    (by simp [lower, NamesDistinct, MembersDistinct])).1
  have text : ¬ (Value.str "t" : Json).IsObject := fun ⟨_, same⟩ => nomatch same
  refine ⟨(paths ["a", "x"]).shown rfl ?_, (paths ["a", "y", "z"]).hidden rfl ?_,
    (paths ["b"]).alone _ rfl ?_, (paths ["a"]).union _ _ rfl rfl⟩
  · rw [blocks_cons_iff fun _ top => ⟨upper, (Option.some.inj top).symm⟩,
      blocks_cons_iff fun _ below => ⟨_, (Option.some.inj below).symm⟩]
    exact not_blocks_nil _
  · exact ⟨["a", "y"], ["z"], _, rfl, List.cons_ne_nil _ _, rfl, text⟩
  · exact fun members same => nomatch same

end Settings

end NodeClient
