import TronGateway.Proofs.Address.Accepted
import TronGateway.Proofs.Slice
set_option autoImplicit false

/-!
# Slices of an address

The conversions of an address once more, with each slice that they cut as one that can fail: the
checksum off the decoded bytes, the four bytes of a hash, the version byte off the hexadecimal. None
of them fails, whatever the text. An address is looked at in its base58 form, whose 34 characters
hold at least 21 bytes of payload, so that there is a version byte to cut off, and at most 30.
-/

namespace TronGateway

namespace Slicing

def checksum (payload : List UInt8) : Except Slice.Fault (List UInt8) :=
  Slice.copyFront Address.checksumLength (Sha256.digest (Sha256.digest payload))

def base58ToHex (address : String) : Slicing String :=
  match Base58.decode address with
  | .error fault => throw (.invalidAddress (address ++ ": " ++ fault.message))
  | .ok decoded =>
    if decoded.length ≤ Address.checksumLength then
      throw (.invalidAddress (address ++ ": too short"))
    else do
      let place ← slice (Slice.offset decoded.length Address.checksumLength)
      let (payload, check) ← slice (Slice.split place decoded)
      let computed ← slice (checksum payload)
      if computed = check then pure (Hex.encode payload)
      else throw (.invalidAddress (address ++ ": bad checksum"))

def hexToBase58 (address : String) : Slicing String :=
  match Hex.decode (Address.normalizeHex address) with
  | .error fault => throw (.invalidAddress (address ++ ": " ++ fault.message))
  | .ok payload => do
    let check ← slice (checksum payload)
    pure (Base58.encode (payload ++ check))

def convert (address : String) : Slicing String :=
  let length := Utf8.byteLength address
  if length = Address.base58Length then base58ToHex address
  else if length = Address.hexLength then hexToBase58 address
  else throw (.invalidAddress (address ++ " (length " ++ Decimal.ofNat length ++ ")"))

def toHex (address : String) : Slicing String :=
  if Utf8.byteLength address = Address.hexLength then do convert (← convert address)
  else convert address

def toContractHex (address : String) : Slicing String := do
  let hex ← toHex address
  let digits ← slice (Slice.textFrom (Utf8.byteLength Address.versionHex) hex)
  pure ("0x" ++ digits)

theorem checksum_eq (payload : List UInt8) :
    checksum payload = .ok (Address.checksum payload) := by
  apply Slice.copyFront_of_le
  rw [Sha256.length_digest]
  decide

theorem base58ToHex_eq (address : String) :
    base58ToHex address = result (Address.base58ToHex address) := by
  unfold base58ToHex Address.base58ToHex
  cases Base58.decode address with
  | error fault => rfl
  | ok decoded =>
      dsimp only
      by_cases short : decoded.length ≤ Address.checksumLength
      · rw [if_pos short, if_pos short]
        rfl
      · have long := Nat.le_of_not_le short
        have place := Slice.offset_eq_ok_iff.mpr (Nat.sub_add_cancel long)
        have parts := Slice.split_of_le (Nat.sub_le decoded.length Address.checksumLength)
        rw [if_neg short, if_neg short, place, slice_ok_bind, parts, slice_ok_bind]
        dsimp only
        rw [checksum_eq, slice_ok_bind]
        split
        · rfl
        · rfl

theorem hexToBase58_eq (address : String) :
    hexToBase58 address = result (Address.hexToBase58 address) := by
  unfold hexToBase58 Address.hexToBase58
  cases Hex.decode (Address.normalizeHex address) with
  | error fault => rfl
  | ok payload =>
      dsimp only
      rw [checksum_eq, slice_ok_bind]
      rfl

theorem convert_eq (address : String) : convert address = result (Address.convert address) := by
  unfold convert Address.convert
  dsimp only
  split
  · exact base58ToHex_eq address
  · split
    · exact hexToBase58_eq address
    · rfl

theorem toHex_eq (address : String) : toHex address = result (Address.toHex address) := by
  unfold toHex Address.toHex
  split
  · rw [convert_eq]
    cases Address.convert address with
    | error failure => exact result_error_bind failure _
    | ok base58 =>
        rw [result_ok_bind]
        exact convert_eq base58
  · exact convert_eq address

end Slicing

/-! ### Base58 forms -/

namespace Address

variable {address form hex : String}

/-- The base58 form of an address: itself, or what its hexadecimal is converted to. -/
structure IsForm (address form : String) : Prop where
  length : Utf8.byteLength form = 34
  leads : form = address ∨ Utf8.byteLength address = 42 ∧ convert address = .ok form

theorem length_of_convert (converted : convert address = .ok hex)
    (notHex : Utf8.byteLength address ≠ 42) : Utf8.byteLength address = 34 := by
  obtain ⟨payload, spells, -⟩ := convert_eq_ok_iff.mp converted
  cases spells with
  | base58 length _ _ => exact length
  | hex length _ => exact absurd length notHex

theorem byteLength_ne_of_convert (long : Utf8.byteLength address = 42)
    (converted : convert address = .ok form) : Utf8.byteLength form ≠ 42 := by
  obtain ⟨payload, spells, same⟩ := convert_eq_ok_iff.mp converted
  have base58 : form = base58OfPayload payload := same.trans (if_neg (by rw [long]; decide))
  exact base58 ▸ spells.byteLength_ne

theorem toHex_eq_ok_iff :
    toHex address = .ok hex ↔ ∃ form, IsForm address form ∧ base58ToHex form = .ok hex := by
  unfold toHex
  by_cases long : Utf8.byteLength address = 42
  · rw [if_pos (by exact long)]
    constructor
    · intro read
      cases converted : convert address with
      | error failure =>
          rw [converted] at read
          cases read
      | ok form =>
          rw [converted] at read
          have length := length_of_convert read (byteLength_ne_of_convert long converted)
          refine ⟨form, ⟨length, .inr ⟨long, converted⟩⟩, ?_⟩
          rw [← convert_of_base58 length]
          exact read
    · rintro ⟨form, ⟨length, same | ⟨-, converted⟩⟩, passes⟩
      · rw [same, long] at length
        cases length
      · rw [converted]
        exact (convert_of_base58 length).trans passes
  · rw [if_neg (by exact long)]
    constructor
    · intro read
      have length := length_of_convert read long
      refine ⟨address, ⟨length, .inl rfl⟩, ?_⟩
      rw [← convert_of_base58 length]
      exact read
    · rintro ⟨form, ⟨length, rfl | ⟨other, -⟩⟩, passes⟩
      · exact (convert_of_base58 length).trans passes
      · exact absurd other long

theorem payload_of_form (length : Utf8.byteLength form = 34) (passes : base58ToHex form = .ok hex) :
    ∃ payload, hex = Hex.encode payload ∧ 21 ≤ payload.length ∧ payload.length ≤ 30 := by
  obtain ⟨payload, nonempty, same, spelled⟩ := base58ToHex_eq_ok_iff.mp passes
  obtain ⟨least, most, -⟩ := length_of_base58 nonempty (same ▸ length)
  exact ⟨payload, spelled, least, most⟩

theorem payload_of_toHex (read : toHex address = .ok hex) :
    ∃ payload, hex = Hex.encode payload ∧ 21 ≤ payload.length ∧ payload.length ≤ 30 := by
  obtain ⟨form, isForm, passes⟩ := toHex_eq_ok_iff.mp read
  exact payload_of_form isForm.length passes

/-- What stands behind the mark is the account of a payload, and more than that never. -/
theorem account_of_toContractHex {contractHex : String}
    (read : toContractHex address = .ok contractHex) :
    ∃ account, contractHex = "0x" ++ Hex.encode account ∧ account.length ≤ 29 := by
  obtain ⟨hex, found, -⟩ := map_eq_ok_iff.mp read
  obtain ⟨payload, rfl, least, most⟩ := payload_of_toHex found
  cases payload with
  | nil => cases least
  | cons version account =>
      rw [toContractHex_of_toHex found] at read
      cases read
      exact ⟨account, rfl, Nat.le_of_succ_le_succ most⟩

theorem invalidAddress_of_toHex {failure : Error} (failed : toHex address = .error failure) :
    ∃ text, failure = .invalidAddress text := by
  have refused {other : String} (failed : convert other = .error failure) :
      ∃ text, failure = .invalidAddress text := by
    obtain ⟨detail, same⟩ := isRefused_of_error failed
    rw [failed] at same
    exact ⟨_, Except.error.inj same⟩
  unfold toHex at failed
  split at failed
  · split at failed
    · next first =>
        cases failed
        exact refused first
    · exact refused failed
  · exact refused failed

end Address

namespace Slicing

theorem textFrom_version (version : UInt8) (account : List UInt8) :
    Slice.textFrom (Utf8.byteLength Address.versionHex) (Hex.encode (version :: account)) =
      .ok (Hex.encode account) := by
  have split : Hex.encode (version :: account) =
      String.ofList (Hex.encodeByte version) ++ Hex.encode account := by
    unfold Hex.encode
    rw [← String.ofList_append]
    rfl
  have two : Utf8.byteLength (String.ofList (Hex.encodeByte version)) =
      Utf8.byteLength Address.versionHex := by
    unfold Utf8.byteLength Utf8.encode
    rw [String.toList_ofList, Hex.encodeChars_encodeByte]
    rfl
  rw [split]
  exact Slice.textFrom_append two _

theorem toContractHex_eq (address : String) :
    toContractHex address = result (Address.toContractHex address) := by
  unfold toContractHex
  rw [toHex_eq]
  cases read : Address.toHex address with
  | error failure =>
      unfold Address.toContractHex
      rw [read]
      rfl
  | ok hex =>
      obtain ⟨payload, rfl, least, -⟩ := Address.payload_of_toHex read
      cases payload with
      | nil => cases least
      | cons version account =>
          rw [result_ok_bind, textFrom_version, slice_ok_bind, Address.toContractHex_of_toHex read]
          rfl

end Slicing
end TronGateway
