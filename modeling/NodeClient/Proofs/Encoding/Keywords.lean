import NodeClient.Binding.Table
import NodeClient.Proofs.Encoding.Arguments
import NodeClient.Proofs.Json.Equality
import NodeClient.Proofs.Json.Members

/-! # What the encoder sees of the arguments

The encoder looks at the first set name that is not declared, and at what is found under the names of
the slots. Arguments that are alike in these are encoded alike, so names that are not set can be left
out, and the order of the names shows only in which of several undeclared ones is reported.
Positional arguments are those of the names of their slots, and null behind them says nothing.
-/

namespace NodeClient

namespace Signature

variable {signature : Signature} {values others : List (String × Argument)}

/-- The names that are set but not declared, in the order in which they are given. -/
def undeclared (signature : Signature) (values : List (String × Argument)) : List String :=
  (values.filter fun given => !signature.names.contains given.1 && !given.2.isNull).map Prod.fst

theorem undeclared_eq_nil_iff : signature.undeclared values = [] ↔ signature.Declares values := by
  rw [undeclared, List.map_eq_nil_iff, List.filter_eq_nil_iff]
  refine forall_congr' fun given => imp_congr_right fun _ => ?_
  cases set : given.2.isNull <;> simp

/-- Of the names that are set but not declared the first is reported, before anything else is
checked. -/
theorem encode_of_undeclared {name : String} {rest : List String}
    (given : signature.undeclared values = name :: rest) :
    signature.encode values = .error ⟨signature.method, .unsupportedArgument name⟩ := by
  obtain ⟨first, _, refused, rfl, _⟩ := List.map_eq_cons_iff.mp given
  rw [encode, ← List.head?_filter, refused, List.head?_cons]

/-- Arguments of which the same name is reported, and under whose slots' names the same is found, are
encoded alike. -/
theorem encode_congr
    (first : (signature.undeclared values).head? = (signature.undeclared others).head?)
    (found : ∀ name ∈ signature.names,
      Value.memberOrNull name values = Value.memberOrNull name others) :
    signature.encode values = signature.encode others := by
  cases given : signature.undeclared values with
  | cons name rest =>
    rw [given, List.head?_cons] at first
    obtain ⟨rest', given'⟩ := List.head?_eq_some_iff.mp first.symm
    rw [encode_of_undeclared given, encode_of_undeclared given']
  | nil =>
    rw [given, List.head?_nil] at first
    have given' := List.head?_eq_none_iff.mp first.symm
    have supplied : signature.supplied values = signature.supplied others :=
      List.filter_congr fun name member => by
        rw [found name (signature.mem_names_of_mem_group member)]
    rw [encode_of_declares (undeclared_eq_nil_iff.mp given),
      encode_of_declares (undeclared_eq_nil_iff.mp given'), supplied, List.map_congr_left found]

/-- Names that are not set are never reported. -/
theorem undeclared_filter_isNull (signature : Signature) (values : List (String × Argument)) :
    signature.undeclared (values.filter fun given => !given.2.isNull) =
      signature.undeclared values := by
  rw [undeclared, List.filter_filter, undeclared]
  congr 2
  funext given
  rw [Bool.and_assoc, Bool.and_self]

/-- Where at most one name is set but not declared, it does not depend on the order. -/
theorem undeclared_eq_of_perm (perm : values.Perm others)
    (few : (signature.undeclared values).length ≤ 1) :
    signature.undeclared values = signature.undeclared others := by
  have shuffled : (signature.undeclared values).Perm (signature.undeclared others) :=
    (perm.filter _).map Prod.fst
  cases given : signature.undeclared values with
  | nil => exact (List.nil_perm.mp (given ▸ shuffled)).symm
  | cons name rest =>
    rw [given, List.length_cons, Nat.succ_le_succ_iff, Nat.le_zero, List.length_eq_zero_iff] at few
    rw [given, few] at shuffled
    rw [few, List.singleton_perm.mp shuffled]

theorem encodePositional_append_null {given : List Argument} {count : Nat}
    (short : given.length + count ≤ signature.slots.length) :
    signature.encodePositional (given ++ List.replicate count .null) =
      signature.encodePositional given := by
  have padded : (given ++ List.replicate count Value.null).length ≤ signature.slots.length := by
    rwa [List.length_append, List.length_replicate]
  rw [encodePositional_of_short padded,
    encodePositional_of_short ((Nat.le_add_right _ _).trans short)]
  refine encode_congr ?_ fun name _ =>
    Value.memberOrNull_zip_append_null signature.names given count name
  rw [undeclared_eq_nil_iff.mpr (signature.declares_zip _),
    undeclared_eq_nil_iff.mpr (signature.declares_zip _)]

/-- Without a group, positional arguments that are not too many are only brought into the shortest
list. -/
theorem encodePositional_eq_elide {given : List Argument}
    (short : given.length ≤ signature.slots.length) (groupless : signature.exactlyOneOf = []) :
    signature.encodePositional given =
      Encoding.elide signature.method signature.slots given := by
  rw [encodePositional_of_short short, encode_of_declares (signature.declares_zip given),
    if_neg (fun grouped => grouped.1 groupless), elide_zip signature short]

/-- Only the values that are set and their slots matter to the encoder. Names that are not set, declared
or not, can be left out. The order of the names does not matter, except that of several names that are
set but not declared the first one is reported. Positional arguments are encoded as those of the names
of their slots; null behind them, up to the count of slots, changes nothing, and without a group they
are only brought into the shortest list. -/
theorem encode_by_set_values (signature : Signature) :
    (∀ values : List (String × Argument), (values.map Prod.fst).Nodup →
      signature.encode (values.filter fun given => !given.2.isNull) = signature.encode values) ∧
    (∀ values others : List (String × Argument), (values.map Prod.fst).Nodup →
      values.Perm others → (signature.undeclared values).length ≤ 1 →
      signature.encode others = signature.encode values) ∧
    (∀ (values : List (String × Argument)) (name : String) (rest : List String),
      signature.undeclared values = name :: rest →
      signature.encode values = .error ⟨signature.method, .unsupportedArgument name⟩) ∧
    ∀ given : List Argument, given.length ≤ signature.slots.length →
      signature.encodePositional given = signature.encode (signature.names.zip given) ∧
      (∀ count : Nat, given.length + count ≤ signature.slots.length →
        signature.encodePositional (given ++ List.replicate count .null) =
          signature.encodePositional given) ∧
      (signature.exactlyOneOf = [] →
        signature.encodePositional given =
          Encoding.elide signature.method signature.slots given) := by
  refine ⟨fun values distinct => ?_, fun values others distinct perm few => ?_,
    fun _ _ _ => encode_of_undeclared, fun given short => ⟨?_, ?_, ?_⟩⟩
  · refine encode_congr ?_ fun name _ => Value.memberOrNull_filter_isNull distinct name
    rw [undeclared_filter_isNull]
  · refine (encode_congr ?_ fun name _ => ?_).symm
    · rw [undeclared_eq_of_perm perm few]
    · exact congrArg (fun found : Option Argument => found.getD .null)
        (Value.member?_eq_of_perm distinct perm name)
  · exact encodePositional_of_short short
  · exact fun _ => encodePositional_append_null
  · exact encodePositional_eq_elide short

/-- A ban is the same in either order of its names, and without those that are not set. Of two names
that no ban has, the first is reported. By position, nothing need be said about the last slots. -/
theorem encode_by_set_values_setBan :
    let signature := Binding.setBanSignature
    let values : List (String × Argument) := [("reason", .null), ("absolute", .bool true),
      ("bantime", .null), ("command", .str "add"), ("subnet", .str "192.0.2.0/24")]
    let wire : List Argument := [.str "192.0.2.0/24", .str "add", .int 0, .bool true]
    let foreign : List (String × Argument) := [("reason", .str "spam"), ("origin", .str "feed")]
    let given : List Argument := [.str "192.0.2.0/24", .str "add"]
    (values.map Prod.fst).Nodup ∧ values.Perm values.reverse ∧
      (signature.undeclared values).length ≤ 1 ∧
      signature.encode (values.filter fun given => !given.2.isNull) = .ok wire ∧
      signature.encode values.reverse = .ok wire ∧
      signature.undeclared foreign = ["reason", "origin"] ∧
      signature.encode foreign = .error ⟨"setban", .unsupportedArgument "reason"⟩ ∧
      signature.encode foreign.reverse = .error ⟨"setban", .unsupportedArgument "origin"⟩ ∧
      given.length + 2 ≤ signature.slots.length ∧ signature.exactlyOneOf = [] ∧
      signature.encode (signature.names.zip given) = .ok given ∧
      signature.encodePositional (given ++ [.null, .null]) = .ok given ∧
      Encoding.elide "setban" signature.slots given = .ok given := by
  intro signature values wire foreign given
  have distinct : (values.map Prod.fst).Nodup := by decide
  have perm : values.Perm values.reverse := values.reverse_perm.symm
  have few : (signature.undeclared values).length ≤ 1 := by decide
  have encoded : signature.encode values = .ok wire := by rfl
  have placed : signature.encodePositional given = .ok given := by rfl
  have short : given.length + 2 ≤ signature.slots.length := by decide
  obtain ⟨unset, order, reported, positional⟩ := encode_by_set_values signature
  obtain ⟨named, padded, elided⟩ := positional given (by decide)
  exact ⟨distinct, perm, few, (unset values distinct).trans encoded,
    (order values _ distinct perm few).trans encoded, rfl, reported foreign "reason" ["origin"] rfl,
    reported foreign.reverse "origin" ["reason"] rfl, short, rfl, named.symm.trans placed,
    (padded 2 short).trans placed, (elided rfl).symm.trans placed⟩

end Signature

end NodeClient
