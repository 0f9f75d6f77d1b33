import TronGateway.KeyText
import TronGateway.Proofs.Program
import TronGateway.Proofs.Text.Base58
import TronGateway.Proofs.Text.Hex
set_option autoImplicit false

/-!
# Spellings of an account

The 20 bytes of an account always have a base58 spelling: that of the version byte in front of them.
So every key that can be read has an address. A text has a base58 spelling exactly when it spells a
payload, and that of an account is the same for each of its spellings.
-/

namespace TronGateway

namespace Address

/-- The text spells the payload: in base58 with its checksum, or in hexadecimal. -/
inductive Spells (address : String) (payload : List UInt8) : Prop where
  | base58 (length : Utf8.byteLength address = 34) (nonempty : payload ≠ [])
      (same : address = base58OfPayload payload)
  | hex (length : Utf8.byteLength address = 42)
      (read : Hex.decode (normalizeHex address) = .ok payload)

theorem length_checksum (payload : List UInt8) : (checksum payload).length = checksumLength := by
  unfold checksum
  rw [List.length_take, Sha256.length_digest]
  rfl

theorem base58ToHex_eq_ok_iff {address hex : String} :
    base58ToHex address = .ok hex ↔
      ∃ payload, payload ≠ [] ∧ address = base58OfPayload payload ∧ hex = Hex.encode payload := by
  unfold base58ToHex
  constructor
  · intro read
    split at read
    · cases read
    · next decoded text =>
        split at read
        · cases read
        · next long =>
            dsimp only at read
            split at read
            · next right =>
                cases read
                refine ⟨_, ?_, ?_, rfl⟩
                · apply List.ne_nil_of_length_pos
                  rw [List.length_take]
                  omega
                · unfold base58OfPayload
                  rw [right, List.take_append_drop]
                  exact Base58.decode_eq_ok_iff.mp text
            · cases read
  · rintro ⟨payload, nonempty, same, rfl⟩
    have four := length_checksum payload
    have positive := List.length_pos_of_ne_nil nonempty
    have long : ¬ (payload ++ checksum payload).length ≤ checksumLength := by
      rw [List.length_append]
      omega
    have front : (payload ++ checksum payload).length - checksumLength = payload.length := by
      rw [List.length_append]
      omega
    rw [Base58.decode_eq_ok_iff.mpr same]
    dsimp only
    rw [if_neg long, front, List.take_left, List.drop_left, if_pos rfl]

theorem convert_of_base58 {address : String} (length : Utf8.byteLength address = 34) :
    convert address = base58ToHex address := by
  unfold convert
  dsimp only
  rw [length, if_pos (by decide)]

theorem convert_of_hex {address : String} (length : Utf8.byteLength address = 42) :
    convert address = hexToBase58 address := by
  unfold convert
  dsimp only
  rw [length, if_neg (by decide), if_pos (by decide)]

theorem hexToBase58_eq_ok_iff {address base58 : String} :
    hexToBase58 address = .ok base58 ↔
      ∃ payload, Hex.decode (normalizeHex address) = .ok payload ∧
        base58 = base58OfPayload payload := by
  unfold hexToBase58
  cases Hex.decode (normalizeHex address) with
  | error fault => simp
  | ok payload => simp [eq_comm]

/-- A text has a base58 spelling exactly when it spells a payload. -/
theorem toBase58_eq_ok_iff {address base58 : String} :
    toBase58 address = .ok base58 ↔
      ∃ payload, Spells address payload ∧ base58 = base58OfPayload payload := by
  unfold toBase58 convert
  dsimp only
  by_cases short : Utf8.byteLength address = 34
  · rw [if_pos (by exact short)]
    constructor
    · intro read
      obtain ⟨hex, converted, rfl⟩ := map_eq_ok_iff.mp read
      obtain ⟨payload, nonempty, same, -⟩ := base58ToHex_eq_ok_iff.mp converted
      exact ⟨payload, .base58 short nonempty same, same⟩
    · rintro ⟨payload, spells, rfl⟩
      cases spells with
      | base58 _ nonempty same =>
          have converted := base58ToHex_eq_ok_iff.mpr ⟨payload, nonempty, same, rfl⟩
          exact map_eq_ok_iff.mpr ⟨_, converted, same⟩
      | hex length _ =>
          rw [short] at length
          cases length
  · rw [if_neg (by exact short), if_neg (by exact short)]
    by_cases long : Utf8.byteLength address = 42
    · rw [if_pos (by exact long), hexToBase58_eq_ok_iff]
      constructor
      · rintro ⟨payload, read, same⟩
        exact ⟨payload, .hex long read, same⟩
      · rintro ⟨payload, spells, same⟩
        cases spells with
        | base58 length _ _ => exact absurd length short
        | hex _ read => exact ⟨payload, read, same⟩
    · rw [if_neg (by exact long)]
      constructor
      · intro failed
        cases failed
      · rintro ⟨payload, spells, -⟩
        cases spells with
        | base58 length _ _ => exact absurd length short
        | hex length _ => exact absurd length long

theorem byteLength_normalizeHex (address : String) :
    Utf8.byteLength (normalizeHex address) = Utf8.byteLength address := by
  unfold normalizeHex
  split
  · next rest same =>
      unfold Utf8.byteLength Utf8.encode
      rw [same, String.toList_append, String.toList_ofList]
      rfl
  · rfl

theorem length_of_hex {address : String} {payload : List UInt8}
    (length : Utf8.byteLength address = 42)
    (read : Hex.decode (normalizeHex address) = .ok payload) : payload.length = 21 := by
  have bytes := (Hex.decode_eq_ok_iff.mp read).length
  change Utf8.byteLength (normalizeHex address) = _ at bytes
  rw [byteLength_normalizeHex, length] at bytes
  omega

theorem Spells.length_account {address : String} {account : List UInt8}
    (spells : Spells address (0x41 :: account)) : account.length = 20 := by
  cases spells with
  | base58 length _ same =>
      subst same
      have bytes : (account ++ checksum (0x41 :: account)).length = 24 :=
        Base58.byteLength_encode_eq_iff.mp length
      rw [List.length_append, length_checksum] at bytes
      exact Nat.add_right_cancel bytes
  | hex length read => exact Nat.succ_inj.mp (length_of_hex length read)

/-! ### Accounts -/

theorem byteLength_hex {account : List UInt8} (length : account.length = 20) :
    Utf8.byteLength (Hex.encode (0x41 :: account)) = 42 := by
  rw [Hex.byteLength_encode, List.length_cons, length]

theorem normalizeHex_encode (payload : List UInt8) :
    normalizeHex (Hex.encode payload) = Hex.encode payload := by
  have spells := Hex.decode_eq_ok_iff.mp (Hex.decode_encode payload)
  unfold normalizeHex
  split
  · next rest marked =>
      rw [marked] at spells
      obtain ⟨_, value, _, _, ⟨digit, same⟩, _⟩ := Hex.spells_cons_cons_iff.mp spells
      exact absurd same (Hex.mark_ne_digitChar value digit)
  · rfl

theorem spells_hex {account : List UInt8} (length : account.length = 20) :
    Spells (Hex.encode (0x41 :: account)) (0x41 :: account) := by
  apply Spells.hex (byteLength_hex length)
  rw [normalizeHex_encode, Hex.decode_encode]

theorem toBase58_hex {account : List UInt8} (length : account.length = 20) :
    toBase58 (Hex.encode (0x41 :: account)) = .ok (base58OfPayload (0x41 :: account)) :=
  toBase58_eq_ok_iff.mpr ⟨_, spells_hex length, rfl⟩

theorem convert_hex {account : List UInt8} (length : account.length = 20) :
    convert (Hex.encode (0x41 :: account)) = .ok (base58OfPayload (0x41 :: account)) := by
  have spelled := toBase58_hex length
  unfold toBase58 at spelled
  rw [byteLength_hex length, if_neg (by decide)] at spelled
  exact spelled

theorem ofAccount_eq {account : List UInt8} (length : account.length = 20) :
    ofAccount account = .ok (base58OfPayload (0x41 :: account)) := by
  have spelled : versionHex ++ Hex.encode account = Hex.encode (0x41 :: account) := by
    change String.ofList ['4', '1'] ++ String.ofList _ = String.ofList ('4' :: '1' :: _)
    rw [← String.ofList_append]
    rfl
  unfold ofAccount
  rw [if_pos length, spelled, convert_hex length]

theorem length_of_ofAccount {account : List UInt8} {address : String}
    (spelled : ofAccount account = .ok address) : account.length = 20 := by
  unfold ofAccount at spelled
  split at spelled
  · next length => exact length
  · cases spelled

theorem ofKey_eq (key : Curve.PublicKey) :
    ofKey key =
      .ok (base58OfPayload (0x41 :: (Keccak256.digest key.coordinates).drop 12)) := by
  refine ofAccount_eq ?_
  rw [List.length_drop, Keccak256.length_digest]

theorem byteLength_base58OfPayload {account : List UInt8} (length : account.length = 20) :
    Utf8.byteLength (base58OfPayload (0x41 :: account)) = 34 := by
  apply Base58.byteLength_encode_eq_iff.mpr
  change (account ++ checksum (0x41 :: account)).length = 24
  rw [List.length_append, length_checksum, length]
  rfl

theorem spells_base58OfPayload {account : List UInt8} (length : account.length = 20) :
    Spells (base58OfPayload (0x41 :: account)) (0x41 :: account) :=
  .base58 (byteLength_base58OfPayload length) (List.cons_ne_nil _ _) rfl

theorem toBase58_base58 {account : List UInt8} (length : account.length = 20) :
    toBase58 (base58OfPayload (0x41 :: account)) = .ok (base58OfPayload (0x41 :: account)) :=
  toBase58_eq_ok_iff.mpr ⟨_, spells_base58OfPayload length, rfl⟩

theorem convert_base58 {account : List UInt8} (length : account.length = 20) :
    convert (base58OfPayload (0x41 :: account)) = .ok (Hex.encode (0x41 :: account)) := by
  rw [convert_of_base58 (byteLength_base58OfPayload length)]
  exact base58ToHex_eq_ok_iff.mpr ⟨_, List.cons_ne_nil 0x41 account, rfl, rfl⟩

theorem toHex_of_spells {address : String} {account : List UInt8} (length : account.length = 20)
    (spells : Spells address (0x41 :: account)) :
    toHex address = .ok (Hex.encode (0x41 :: account)) := by
  unfold toHex
  cases spells with
  | base58 short _ same =>
      rw [short, if_neg (by decide), same]
      exact convert_base58 length
  | hex long read =>
      rw [long, if_pos (by decide), convert_of_hex long,
        hexToBase58_eq_ok_iff.mpr ⟨_, read, rfl⟩]
      exact convert_base58 length

theorem toContractHex_of_toHex {address : String} {version : UInt8} {account : List UInt8}
    (read : toHex address = .ok (Hex.encode (version :: account))) :
    toContractHex address = .ok ("0x" ++ Hex.encode account) := by
  have behind : (Hex.encode (version :: account)).toList.drop 2 = (Hex.encode account).toList := by
    unfold Hex.encode
    rw [String.toList_ofList, String.toList_ofList]
    rfl
  unfold toContractHex
  rw [read]
  change Except.ok ("0x" ++ String.ofList _) = _
  rw [behind, String.ofList_toList]

theorem toContractHex_of_spells {address : String} {account : List UInt8}
    (length : account.length = 20) (spells : Spells address (0x41 :: account)) :
    toContractHex address = .ok ("0x" ++ Hex.encode account) :=
  toContractHex_of_toHex (toHex_of_spells length spells)

theorem toContractHex_base58 {account : List UInt8} (length : account.length = 20) :
    toContractHex (base58OfPayload (0x41 :: account)) = .ok ("0x" ++ Hex.encode account) :=
  toContractHex_of_spells length (spells_base58OfPayload length)

/-- A text of 42 characters would be taken for hexadecimal, but a base58 spelling is shorter. -/
theorem Spells.byteLength_ne {address : String} {payload : List UInt8}
    (spells : Spells address payload) : Utf8.byteLength (base58OfPayload payload) ≠ 42 := by
  cases spells with
  | base58 length _ same =>
      rw [← same, length]
      decide
  | hex length read =>
      have all : (payload ++ checksum payload).length = 25 := by
        rw [List.length_append, length_checksum, length_of_hex length read]
        rfl
      have wide : ∀ count ≤ 25, 256 ^ count ≤ 58 ^ (count + 10) := by decide
      have most : Utf8.byteLength (Base58.encode (payload ++ checksum payload)) ≤
          (payload ++ checksum payload).length + 10 :=
        Base58.byteLength_encode_le fun count inside => wide count (all ▸ inside)
      unfold base58OfPayload
      omega

theorem toBase58_of_toContractHex {address base58 hex : String}
    (spelled : toBase58 address = .ok base58) (contract : toContractHex base58 = .ok hex) :
    toBase58 base58 = .ok base58 := by
  obtain ⟨payload, spells, rfl⟩ := toBase58_eq_ok_iff.mp spelled
  have short := spells.byteLength_ne
  obtain ⟨inner, read, -⟩ := map_eq_ok_iff.mp contract
  unfold toHex at read
  rw [if_neg (by exact short)] at read
  have long : Utf8.byteLength (base58OfPayload payload) = 34 := by
    apply Decidable.byContradiction
    intro other
    unfold convert at read
    rw [if_neg (by exact other), if_neg (by exact short)] at read
    cases read
  rw [convert_of_base58 long] at read
  obtain ⟨again, nonempty, same, -⟩ := base58ToHex_eq_ok_iff.mp read
  exact toBase58_eq_ok_iff.mpr ⟨again, .base58 long nonempty same, same⟩

theorem ascii_base58OfPayload (payload : List UInt8) :
    ∀ c ∈ (base58OfPayload payload).toList, c.toNat < 0x80 := by
  unfold base58OfPayload Base58.encode
  rw [String.toList_ofList]
  exact (Base58.areDigits_encodeChars _).ascii

theorem length_base58OfPayload (payload : List UInt8) :
    (base58OfPayload payload).length = Utf8.byteLength (base58OfPayload payload) := by
  unfold Utf8.byteLength Utf8.encode
  rw [Utf8.length_encodeChars_of_ascii (ascii_base58OfPayload payload), String.length_toList]

theorem ascii_of_toBase58 {address : String} (spelled : toBase58 address = .ok address) :
    (∀ c ∈ address.toList, c.toNat < 0x80) ∧ address.length = 34 := by
  obtain ⟨payload, spells, same⟩ := toBase58_eq_ok_iff.mp spelled
  have ascii := ascii_base58OfPayload payload
  have length := length_base58OfPayload payload
  have different := spells.byteLength_ne
  rw [← same] at ascii length different
  refine ⟨ascii, ?_⟩
  cases spells with
  | base58 short _ _ => rw [length, short]
  | hex long _ => exact absurd long different

end Address

namespace KeyText

theorem parse_encode (encoded : List UInt8) :
    parse (Hex.encode encoded) = (Curve.PublicKey.ofBytes encoded).mapError Error.ofCurve := by
  unfold parse bytes
  rw [if_pos (Hex.allDigits_encode encoded), Hex.read_encode]

theorem address_of_parse {text : String} {key : Curve.PublicKey} (parsed : parse text = .ok key) :
    address text =
      .ok (Address.base58OfPayload (0x41 :: (Keccak256.digest key.coordinates).drop 12)) := by
  unfold address
  rw [parsed]
  exact Address.ofKey_eq key

theorem base58_of_address {text owner : String} (spelled : address text = .ok owner) :
    ∃ account, account.length = 20 ∧ owner = Address.base58OfPayload (0x41 :: account) := by
  unfold address at spelled
  split at spelled
  · cases spelled
  · next key _ =>
      rw [Address.ofKey_eq] at spelled
      refine ⟨_, ?_, (Except.ok.inj spelled).symm⟩
      rw [List.length_drop, Keccak256.length_digest]

end KeyText
end TronGateway
