import NodeClient.Projection.Basic
import NodeClient.Proofs.Number.Integer
import NodeClient.Proofs.Text.Cut

/-! # The grammar of socket addresses

A socket address is written as an IPv6 host in brackets, up to the first `]:`, or as a plain host that
is not empty, holds no colon and does not begin with a bracket, and a numeral for the port. These are
the texts that are parsed. Every other text is refused as what the member of a result holds, but for
one kind: a port of digit characters that no number is read from.
-/

namespace NodeClient

namespace SocketAddress

open Number Text

/-- How a text divides into a host and what stands for the port. -/
inductive Divides : List Char → List Char → List Char → Prop where
  | bracketed {host port : List Char} (literal : Address.isIpv6 host = true)
      (first : ¬ [']', ':'] <:+: host) : Divides ('[' :: (host ++ ']' :: ':' :: port)) host port
  | plain {host port : List Char} (nonempty : host ≠ []) (unbracketed : host.head? ≠ some '[')
      (only : ':' ∉ host) (last : ':' ∉ port) : Divides (host ++ ':' :: port) host port

/-- A text is an address with these digits for its port. -/
structure Written (text port : List Char) (address : SocketAddress) : Prop where
  divides : Divides text address.host.toList port
  numeral : ∃ number : Nat, Numeral port number ∧ address.port = number ∧ number ≤ lastPort

/-- Digit characters that no number is read from: one of them is decorative, or they are too many. -/
structure Unreadable (port : List Char) : Prop where
  nonempty : port ≠ []
  digits : ∀ c ∈ port, isDigit c = true
  odd : digitLimit < port.length ∨ ∃ c ∈ port, decimalDigit? c = none

variable {text host port : List Char}

theorem divides_of_split (parted : split text = .ok (host, port)) : Divides text host port := by
  unfold split at parted
  split at parted
  · rename_i rest
    cases cut : cutFirst? [']', ':'] rest with
    | none => simp [cut] at parted
    | some parts =>
      obtain ⟨front, back⟩ := parts
      obtain ⟨rfl, free⟩ := (cutFirst?_eq_some_iff (by decide)).mp cut
      simp only [cut] at parted
      split_ifs at parted with literal
      obtain ⟨rfl, rfl⟩ := Prod.mk.inj (Except.ok.inj parted)
      exact .bracketed literal free
  · rename_i unbracketed
    cases cut : cutLast? ':' text with
    | none => simp [cut] at parted
    | some parts =>
      obtain ⟨front, back⟩ := parts
      obtain ⟨rfl, last⟩ := cutLast?_eq_some_iff.mp cut
      simp only [cut] at parted
      split_ifs at parted with refused
      obtain ⟨rfl, rfl⟩ := Prod.mk.inj (Except.ok.inj parted)
      simp only [Bool.or_eq_true, List.isEmpty_iff, List.contains_iff_mem, not_or] at refused
      refine .plain refused.1 ?_ refused.2 last
      intro bracket
      obtain ⟨rest, rfl⟩ := List.head?_eq_some_iff.mp bracket
      exact unbracketed _ rfl

theorem split_of_divides (divides : Divides text host port) : split text = .ok (host, port) := by
  cases divides with
  | bracketed literal first =>
    simp only [split, cutFirst?_append (show ']' ≠ ':' by decide) first, literal, ↓reduceIte]
  | plain nonempty unbracketed only last =>
    unfold split
    split
    · rename_i rest same
      obtain ⟨c, more, rfl⟩ := List.exists_cons_of_ne_nil nonempty
      rw [List.cons_append, List.cons.injEq] at same
      exact absurd (congrArg some same.1) unbracketed
    · have accepted : (host.isEmpty || host.contains ':') = false := by
        simpa [nonempty] using only
      simp only [cutLast?_append last, accepted, Bool.false_eq_true, ↓reduceIte]

/-- A text is taken apart as the grammar divides it. -/
theorem split_eq_ok_iff : split text = .ok (host, port) ↔ Divides text host port :=
  ⟨divides_of_split, split_of_divides⟩

theorem Divides.unique {otherHost otherPort : List Char} (one : Divides text host port)
    (two : Divides text otherHost otherPort) : host = otherHost ∧ port = otherPort := by
  have same := (split_eq_ok_iff.mpr one).symm.trans (split_eq_ok_iff.mpr two)
  exact Prod.mk.inj (Except.ok.inj same)

/-- What is made of digit characters: the integer that is read from them, if it is a port. -/
theorem portOf_of_digits (nonempty : port ≠ []) (digits : ∀ c ∈ port, isDigit c = true) :
    portOf port =
      match readInteger port with
      | .error fault => .error (.notNumber (String.ofList port) fault)
      | .ok value => if 0 ≤ value ∧ value ≤ lastPort then .ok value else .error .port := by
  have run : (port.isEmpty || !port.all isDigit) = false := by
    simpa [nonempty, List.isEmpty_iff] using digits
  rw [portOf, run]
  rfl

theorem portOf_of_not_digits (other : ¬ (port ≠ [] ∧ ∀ c ∈ port, isDigit c = true)) :
    portOf port = .error .port := by
  rw [portOf, if_pos]
  rw [Bool.or_eq_true, List.isEmpty_iff, Bool.not_eq_true', List.all_eq_false]
  by_contra run
  rw [not_or, not_exists] at run
  exact other ⟨run.1, fun c listed => by simpa [listed] using run.2 c⟩

/-- A port is the number that its digits denote, if there are not too many of them. -/
theorem portOf_eq_ok_iff {value : Int} :
    portOf port = .ok value ↔ port.length ≤ digitLimit ∧
      ∃ number : Nat, Numeral port number ∧ value = number ∧ number ≤ lastPort := by
  by_cases run : port ≠ [] ∧ ∀ c ∈ port, isDigit c = true
  · obtain ⟨nonempty, digits⟩ := run
    rw [portOf_of_digits nonempty digits]
    constructor
    · intro taken
      cases read : readInteger port with
      | error fault => simp [read] at taken
      | ok integer =>
        obtain ⟨short, number, numeral, rfl⟩ := (readInteger_eq_ok_iff nonempty digits).mp read
        simp only [read] at taken
        split_ifs at taken with inRange
        refine ⟨short, number, numeral, (Except.ok.inj taken).symm, ?_⟩
        exact Int.ofNat_le.mp inRange.2
    · rintro ⟨short, number, numeral, rfl, inRange⟩
      have read := (readInteger_eq_ok_iff nonempty digits).mpr ⟨short, number, numeral, rfl⟩
      simp only [read]
      exact if_pos ⟨Int.natCast_nonneg number, Int.ofNat_le.mpr inRange⟩
  · rw [portOf_of_not_digits run]
    simp only [reduceCtorEq, false_iff]
    rintro ⟨_, number, numeral, _⟩
    exact run numeral.digits

/-- The only port that is neither taken nor refused is one of digits that no number is read from. -/
theorem exists_notNumber_iff :
    (∃ spelled fault, portOf port = .error (.notNumber spelled fault)) ↔ Unreadable port := by
  constructor
  · rintro ⟨spelled, fault, failed⟩
    by_cases run : port ≠ [] ∧ ∀ c ∈ port, isDigit c = true
    · refine ⟨run.1, run.2, (exists_fault_iff run.1 run.2).mp ?_⟩
      rw [portOf_of_digits run.1 run.2] at failed
      cases read : readInteger port with
      | error fault => exact ⟨fault, rfl⟩
      | ok value =>
        simp only [read] at failed
        split_ifs at failed
        exact nomatch failed
    · rw [portOf_of_not_digits run] at failed
      exact nomatch failed
  · rintro ⟨nonempty, digits, odd⟩
    obtain ⟨fault, read⟩ := (exists_fault_iff nonempty digits).mpr odd
    refine ⟨String.ofList port, fault, ?_⟩
    rw [portOf_of_digits nonempty digits, read]

/-- A text that does not divide has a fault of its own, in front of the port. -/
theorem split_ne_notNumber (spelled : String) (fault : IntegerFault) :
    split text ≠ .error (.notNumber spelled fault) := by
  unfold split
  split
  · split
    · exact nofun
    · split_ifs <;> exact nofun
  · split
    · exact nofun
    · split_ifs <;> exact nofun

/-- The texts that are parsed are those that the grammar writes, with a port that is not too long. -/
theorem parse_eq_ok_iff {text : String} {address : SocketAddress} :
    parse text = .ok address ↔
      ∃ port, Written text.toList port address ∧ port.length ≤ digitLimit := by
  constructor
  · intro parsed
    rw [parse] at parsed
    cases parted : split text.toList with
    | error fault => exact nomatch (parted ▸ parsed)
    | ok parts =>
      obtain ⟨host, port⟩ := parts
      cases taken : portOf port with
      | error fault => simp [parted, taken] at parsed
      | ok value =>
        simp only [parted, taken, Except.ok.injEq] at parsed
        obtain ⟨short, numeral⟩ := portOf_eq_ok_iff.mp taken
        subst parsed
        exact ⟨port, ⟨by rw [String.toList_ofList]; exact divides_of_split parted, numeral⟩, short⟩
  · rintro ⟨port, ⟨divides, numeral⟩, short⟩
    have taken := portOf_eq_ok_iff.mpr ⟨short, numeral⟩
    simp only [parse, split_of_divides divides, taken, String.ofList_toList]

theorem exists_parse_notNumber_iff {text : String} :
    (∃ spelled fault, parse text = .error (.notNumber spelled fault)) ↔
      ∃ host port, Divides text.toList host port ∧ Unreadable port := by
  constructor
  · rintro ⟨spelled, fault, failed⟩
    rw [parse] at failed
    cases parted : split text.toList with
    | error other =>
      simp only [parted, Except.error.injEq] at failed
      exact absurd (failed ▸ parted) (split_ne_notNumber spelled fault)
    | ok parts =>
      obtain ⟨host, port⟩ := parts
      refine ⟨host, port, divides_of_split parted, exists_notNumber_iff.mp ⟨spelled, fault, ?_⟩⟩
      cases taken : portOf port with
      | error other =>
        simp only [parted, taken, Except.error.injEq] at failed
        rw [failed]
      | ok value => simp [parted, taken] at failed
  · rintro ⟨host, port, divides, unreadable⟩
    obtain ⟨spelled, fault, failed⟩ := exists_notNumber_iff.mpr unreadable
    exact ⟨spelled, fault, by simp only [parse, split_of_divides divides, failed]⟩

end SocketAddress

namespace Projected

open SocketAddress

variable {operation field text : String}

theorem address_eq_ok_iff {address : SocketAddress} :
    Projected.address operation field text = .ok address ↔ parse text = .ok address := by
  rw [Projected.address]
  cases parsed : parse text with
  | ok found => simp only [Except.ok.injEq]
  | error fault => cases fault <;> exact ⟨nofun, nofun⟩

theorem address_eq_notNumber_iff {spelled : String} {fault : Number.IntegerFault} :
    Projected.address operation field text = .error (.notNumber spelled fault) ↔
      parse text = .error (.notNumber spelled fault) := by
  rw [Projected.address]
  cases parsed : parse text with
  | ok found => exact ⟨nofun, nofun⟩
  | error other =>
    cases other with
    | notNumber digits problem => simp only [Except.error.injEq, ProjectionFailure.notNumber.injEq,
        SocketFault.notNumber.injEq]
    | _ => exact ⟨nofun, nofun⟩

/-- A socket address is taken exactly where the grammar writes it. Digits that no number is read from,
in the place of a port, fail as a number does; all else that fails is refused as the content of this
field of the operation. -/
theorem address_outcome (operation field text : String) :
    (∀ address, Projected.address operation field text = .ok address ↔
      ∃ port, Written text.toList port address ∧ port.length ≤ Number.digitLimit) ∧
    ((∃ spelled fault,
        Projected.address operation field text = .error (.notNumber spelled fault)) ↔
      ∃ host port, Divides text.toList host port ∧ Unreadable port) ∧
    ∀ failure, Projected.address operation field text = .error failure →
      (∃ fault, failure = .refused ⟨operation, .invalid field fault⟩) ∨
        ∃ spelled fault, failure = .notNumber spelled fault := by
  refine ⟨?_, ?_, ?_⟩
  · intro address
    rw [address_eq_ok_iff, parse_eq_ok_iff]
  · simp only [address_eq_notNumber_iff, exists_parse_notNumber_iff]
  · intro failure failed
    rw [Projected.address] at failed
    cases parsed : parse text with
    | ok found => exact nomatch (parsed ▸ failed)
    | error fault =>
      rw [parsed] at failed
      cases fault with
      | notNumber digits problem => exact .inr ⟨_, _, (Except.error.inj failed).symm⟩
      | _ => exact .inl ⟨_, (Except.error.inj failed).symm⟩

/-- A zone may hold a bracket, and a port may have a zero in front; a port above the last one is
refused in the name of its field. -/
theorem address_outcome_zone :
    Written "[fe80::1%eth]0]:08333".toList "08333".toList ⟨"fe80::1%eth]0", 8333⟩ ∧
      Projected.address "getpeerinfo" "addr" "[fe80::1%eth]0]:08333" =
        .ok ⟨"fe80::1%eth]0", 8333⟩ ∧
      ∃ fault, Projected.address "getpeerinfo" "addr" "localhost:65536" =
        .error (.refused ⟨"getpeerinfo", .invalid "addr" fault⟩) := by
  have parted : split "[fe80::1%eth]0]:08333".toList =
      .ok ("fe80::1%eth]0".toList, "08333".toList) := rfl
  have numeral : Number.Numeral "08333".toList 8333 := by
    rw [Number.numeral_iff]
    exact ⟨by decide, List.all_eq_true.mp rfl, rfl⟩
  have written : Written "[fe80::1%eth]0]:08333".toList "08333".toList ⟨"fe80::1%eth]0", 8333⟩ :=
    ⟨divides_of_split parted, 8333, numeral, rfl, by decide⟩
  have taken := ((address_outcome "getpeerinfo" "addr" "[fe80::1%eth]0]:08333").1 _).mpr
    ⟨_, written, by decide⟩
  have failed : Projected.address "getpeerinfo" "addr" "localhost:65536" =
      .error (.refused ⟨"getpeerinfo", .invalid "addr" (.invalidPort "localhost:65536")⟩) := rfl
  refine ⟨written, taken, ?_⟩
  rcases (address_outcome "getpeerinfo" "addr" "localhost:65536").2.2 _ failed with
    ⟨fault, same⟩ | ⟨_, _, other⟩
  · exact ⟨fault, failed.trans (congrArg Except.error same)⟩
  · exact nomatch other

/-- A superscript is a digit character, but no numeral: the text is no socket address, and it is not
refused in the name of its field either. -/
theorem address_escapes_superscript :
    (¬ ∃ port address, Written "a:²".toList port address) ∧
      Projected.address "getpeerinfo" "addr" "a:²" = .error (.notNumber "²" .malformed) := by
  refine ⟨?_, rfl⟩
  rintro ⟨port, address, divides, number, numeral, _⟩
  have parted : split "a:²".toList = .ok (['a'], ['²']) := rfl
  obtain ⟨_, rfl⟩ := divides.unique (divides_of_split parted)
  exact numeral.not_decorative ⟨'²', List.mem_singleton_self _, by decide⟩

end Projected

end NodeClient
