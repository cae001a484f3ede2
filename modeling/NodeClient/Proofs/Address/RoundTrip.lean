import NodeClient.Proofs.Address.Socket

/-! # Socket addresses that were written

A host with a colon is written in brackets and any other as it is. What is written is parsed to the same
address for the hosts that the grammar knows and for ports up to the last one; since only these are
parsed, an address that was parsed is written and parsed again without change, however its port was
spelled.
-/

namespace NodeClient

namespace Address

open Text

/-- An IPv6 address has a colon, with or without a zone behind it. -/
theorem colon_mem_of_isIpv6 {text : List Char} (literal : isIpv6 text = true) : ':' ∈ text := by
  have grouped : ∀ address, (groups? address).isSome = true → ':' ∈ address := by
    intro address read
    by_contra absent
    rw [groups?, groupTexts?, splitAt_of_notMem absent] at read
    contradiction
  rw [isIpv6, Bool.and_eq_true] at literal
  obtain ⟨_, read⟩ := literal
  rw [withoutZone?] at read
  cases cut : cutFirst? ['%'] text with
  | none =>
    rw [cut] at read
    exact grouped text read
  | some parts =>
    obtain ⟨address, zone⟩ := parts
    rw [cut] at read
    dsimp only at read
    split_ifs at read with malformed
    · contradiction
    · rw [eq_append_of_cutFirst? cut, List.append_assoc]
      exact List.mem_append_left _ (grouped address read)

end Address

namespace SocketAddress

open Number Text

def portText (port : Int) : List Char := (toString port).toList

theorem toList_text (address : SocketAddress) :
    address.text.toList =
      if ':' ∈ address.host.toList then
        '[' :: (address.host.toList ++ ']' :: ':' :: portText address.port)
      else address.host.toList ++ ':' :: portText address.port := by
  simp only [text, List.contains_iff_mem]
  split_ifs
  · simp only [String.toList_append, List.append_assoc]
    rfl
  · simp only [String.toList_append, List.append_assoc]
    rfl

theorem portText_natCast (number : Nat) : portText number = Nat.toDigits 10 number :=
  String.toList_ofList

theorem numeral_portText (number : Nat) : Numeral (portText number) number := by
  rw [portText_natCast]
  exact numeral_toDigits number

theorem length_portText_le {number : Nat} (inRange : number ≤ lastPort) :
    (portText number).length ≤ digitLimit := by
  have digits : (Nat.toDigits 10 number).length ≤ 5 := by
    rw [Nat.length_toDigits_le_iff (by decide) (by decide)]
    exact Nat.lt_of_le_of_lt inRange (by decide)
  rw [portText_natCast]
  exact digits.trans (by decide)

theorem colon_notMem_portText {number : Nat} : ':' ∉ portText number := by
  rw [portText_natCast]
  intro listed
  have digit := areDigits_toDigits number ':' listed
  contradiction

/-- The hosts that the grammar knows: plain ones, and IPv6 addresses without the pair that ends them. -/
def IsHost (host : List Char) : Prop :=
  (host ≠ [] ∧ ':' ∉ host ∧ host.head? ≠ some '[') ∨
    (Address.isIpv6 host = true ∧ ¬ [']', ':'] <:+: host)

/-- The host of a text that divides is one that the grammar knows. -/
theorem Divides.isHost {text host port : List Char} (divides : Divides text host port) :
    IsHost host := by
  cases divides with
  | bracketed literal first => exact .inr ⟨literal, first⟩
  | plain nonempty unbracketed only last => exact .inl ⟨nonempty, only, unbracketed⟩

/-- What is written for a host that the grammar knows divides into the host and its port. -/
theorem IsHost.divides {address : SocketAddress} (known : IsHost address.host.toList)
    (last : ':' ∉ portText address.port) :
    Divides address.text.toList address.host.toList (portText address.port) := by
  rw [toList_text]
  rcases known with ⟨nonempty, only, unbracketed⟩ | ⟨literal, first⟩
  · rw [if_neg only]
    exact .plain nonempty unbracketed only last
  · rw [if_pos (Address.colon_mem_of_isIpv6 literal)]
    exact .bracketed literal first

/-- An address is parsed from what is written for it exactly when its host is known to the grammar and
its port is in range. -/
theorem parse_text_eq_ok_iff (address : SocketAddress) :
    parse address.text = .ok address ↔
      (0 ≤ address.port ∧ address.port ≤ lastPort) ∧ IsHost address.host.toList := by
  rw [parse_eq_ok_iff]
  constructor
  · rintro ⟨port, ⟨divides, number, _, same, inRange⟩, _⟩
    refine ⟨?_, divides.isHost⟩
    rw [same]
    exact ⟨Int.natCast_nonneg number, Int.ofNat_le.mpr inRange⟩
  · rintro ⟨⟨nonneg, inRange⟩, known⟩
    obtain ⟨number, same⟩ := Int.eq_ofNat_of_zero_le nonneg
    have bound : number ≤ lastPort := by
      rw [same] at inRange
      exact Int.ofNat_le.mp inRange
    have last : ':' ∉ portText address.port := by
      rw [same]
      exact colon_notMem_portText
    have divides := known.divides last
    rw [same] at divides
    exact ⟨portText number, ⟨divides, number, numeral_portText number, same, bound⟩,
      length_portText_le bound⟩

end SocketAddress

namespace Projected

open SocketAddress

/-- Socket addresses are written and taken back without change: those with a port in range and a host
that is plain or an IPv6 address without the pair `]:`, and no others. Whatever text an address was
taken from, the text that is written for it gives it again. -/
theorem address_of_text (operation field : String) :
    (∀ (host : String) (port : Int),
      Projected.address operation field (SocketAddress.text ⟨host, port⟩) = .ok ⟨host, port⟩ ↔
        (0 ≤ port ∧ port ≤ 65535) ∧ IsHost host.toList) ∧
    ∀ text address, Projected.address operation field text = .ok address →
      Projected.address operation field address.text = .ok address := by
  simp only [address_eq_ok_iff]
  constructor
  · intro host port
    exact parse_text_eq_ok_iff ⟨host, port⟩
  · intro text address parsed
    obtain ⟨port, ⟨divides, number, _, same, inRange⟩, _⟩ := parse_eq_ok_iff.mp parsed
    rw [parse_text_eq_ok_iff, same]
    exact ⟨⟨Int.natCast_nonneg number, Int.ofNat_le.mpr inRange⟩, divides.isHost⟩

/-- A zone may end in a bracket, but a host may not hold a bracket with a colon behind it. A port in
digits of another script, with a zero in front, is written in ASCII without it. -/
theorem address_of_text_zone :
    Projected.address "getpeerinfo" "addr" "[fe80::1%a]]:65535" = .ok ⟨"fe80::1%a]", 65535⟩ ∧
      Projected.address "getpeerinfo" "addr" "[::1%]:2]:80" ≠ .ok ⟨"::1%]:2", 80⟩ ∧
      Projected.address "getpeerinfo" "addr" "[::1]:٠٨" = .ok ⟨"::1", 8⟩ ∧
      Projected.address "getpeerinfo" "addr" "[::1]:8" = .ok ⟨"::1", 8⟩ := by
  obtain ⟨written, again⟩ := address_of_text "getpeerinfo" "addr"
  have zone : IsHost "fe80::1%a]".toList := .inr ⟨rfl, by decide⟩
  have pair : ¬ IsHost "::1%]:2".toList := by
    rintro (⟨_, only, _⟩ | ⟨_, first⟩)
    · exact only (by decide)
    · exact first (by decide)
  have taken := (written "fe80::1%a]" 65535).mpr ⟨by decide, zone⟩
  have lost := (written "::1%]:2" 80).not.mpr fun known => pair known.2
  have foreign : Projected.address "getpeerinfo" "addr" "[::1]:٠٨" = .ok ⟨"::1", 8⟩ := by
    decide +kernel
  exact ⟨taken, lost, foreign, again _ _ foreign⟩

end Projected

end NodeClient
