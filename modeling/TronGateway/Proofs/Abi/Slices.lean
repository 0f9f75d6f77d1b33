import TronGateway.Proofs.Abi.Transfer
import TronGateway.Proofs.Address.Slices
set_option autoImplicit false

/-!
# Slices of call data

Call data once more, with each slice as one that can fail: the four bytes of a hash, the mark off
the hexadecimal, the place in a word at which an account or an amount begins. An account of at most
29 bytes always has a place in a word of 32, so that no slice fails and the call data has the length
of its words behind that of its selector, whatever the address.
-/

namespace TronGateway

def Abi.padded (source : List UInt8) : List UInt8 :=
  List.replicate (wordLength - source.length) 0 ++ source

theorem Abi.length_padded {source : List UInt8} (fits : source.length ≤ wordLength) :
    (padded source).length = wordLength := by
  unfold padded
  rw [List.length_append, List.length_replicate, Nat.sub_add_cancel fits]

namespace Slicing

def selector (method : String) : Except Slice.Fault (List UInt8) :=
  Slice.copyFront Abi.selectorLength (Keccak256.digest (Utf8.encode method))

/-- A word of zeros with its end overwritten. -/
def wordEndingWith (source : List UInt8) : Except Slice.Fault (List UInt8) :=
  match Slice.offset Abi.wordLength source.length with
  | .error fault => .error fault
  | .ok place => Slice.overwrite place source (List.replicate Abi.wordLength 0)

def addressWord (address : String) : Slicing (List UInt8) := do
  let contractHex ← toContractHex address
  let digits ← slice (Slice.textFrom 2 contractHex)
  let account ← result (Hex.read digits)
  slice (wordEndingWith account)

def amountWord (amount : Amount) : Except Slice.Fault (List UInt8) :=
  wordEndingWith (BigEndian.ofNat 16 amount.units)

def encodeTransfer (recipient : String) (amount : Amount) : Slicing (List UInt8) := do
  let method ← slice (selector Abi.transferMethod)
  let word ← addressWord recipient
  let amount ← slice (amountWord amount)
  pure (method ++ word ++ amount)

def encodeBalanceOf (owner : String) : Slicing (List UInt8) := do
  let method ← slice (selector Abi.balanceMethod)
  let word ← addressWord owner
  pure (method ++ word)

theorem selector_eq (method : String) : selector method = .ok (Abi.selector method) := by
  apply Slice.copyFront_of_le
  rw [Keccak256.length_digest]
  decide

theorem wordEndingWith_eq_ok_iff {source word : List UInt8} :
    wordEndingWith source = .ok word ↔
      source.length ≤ Abi.wordLength ∧ word = Abi.padded source := by
  unfold wordEndingWith
  by_cases fits : source.length ≤ Abi.wordLength
  · have place := Nat.sub_add_cancel fits
    have kept : (List.replicate Abi.wordLength (0 : UInt8)).take (Abi.wordLength - source.length) =
        List.replicate (Abi.wordLength - source.length) 0 := by
      rw [List.take_replicate, Nat.min_eq_left (Nat.sub_le _ _)]
    rw [Slice.offset_eq_ok_iff.mpr place, and_iff_right fits]
    dsimp only
    rw [Slice.overwrite_eq_ok_iff, List.length_replicate, kept, and_iff_right place]
    rfl
  · unfold Slice.offset
    rw [if_neg fits]
    exact iff_of_false nofun fun made => fits made.1

theorem amountWord_eq (amount : Amount) : amountWord amount = .ok (Abi.amountWord amount) := by
  have length : (BigEndian.ofNat 16 amount.units).length = 16 := BigEndian.length_ofNat _ _
  unfold amountWord
  rw [wordEndingWith_eq_ok_iff, Abi.amountWord_eq]
  unfold Abi.padded
  rw [length]
  exact ⟨by decide, rfl⟩

theorem addressWord_eq (address : String) :
    addressWord address = result (Abi.addressWord address) := by
  unfold addressWord
  rw [toContractHex_eq]
  cases contract : Address.toContractHex address with
  | error failure =>
      unfold Abi.addressWord
      rw [contract]
      rfl
  | ok contractHex =>
      obtain ⟨account, rfl, most⟩ := Address.account_of_toContractHex contract
      have mark : Utf8.byteLength "0x" = 2 := by decide
      have marked := Slice.textFrom_append mark (Hex.encode account)
      have word := wordEndingWith_eq_ok_iff.mpr ⟨Nat.le_trans most (by decide), rfl⟩
      rw [result_ok_bind, marked, slice_ok_bind, Hex.read_encode, result_ok_bind, word,
        Abi.addressWord_of_contractHex contract]
      rfl

theorem encodeTransfer_eq (recipient : String) (amount : Amount) :
    encodeTransfer recipient amount = result (Abi.encodeTransfer recipient amount) := by
  unfold encodeTransfer Abi.encodeTransfer
  rw [selector_eq, slice_ok_bind, addressWord_eq]
  cases Abi.addressWord recipient with
  | error failure => exact result_error_bind failure _
  | ok word =>
      rw [result_ok_bind, amountWord_eq, slice_ok_bind]
      rfl

theorem encodeBalanceOf_eq (owner : String) :
    encodeBalanceOf owner = result (Abi.encodeBalanceOf owner) := by
  unfold encodeBalanceOf Abi.encodeBalanceOf
  rw [selector_eq, slice_ok_bind, addressWord_eq]
  cases Abi.addressWord owner with
  | error failure => exact result_error_bind failure _
  | ok word => rfl

end Slicing

/-! ### What is written -/

namespace Abi

variable {address : String} {amount : Amount} {payload : List UInt8}

/-- What is written of an address whose base58 form holds the payload: behind the version byte
stands an account, which has its place in a word. -/
structure IsWritten (address : String) (amount : Amount) (payload : List UInt8) : Prop where
  least : 21 ≤ payload.length
  most : payload.length ≤ 30
  contractHex : Address.toContractHex address = .ok ("0x" ++ Hex.encode (payload.drop 1))
  word : addressWord address = .ok (padded (payload.drop 1))
  filled : (padded (payload.drop 1)).length = 32
  transfer : ∃ data, encodeTransfer address amount = .ok data ∧ data.length = 68
  balance : ∃ data, encodeBalanceOf address = .ok data ∧ data.length = 36

theorem isWritten_of_toHex (read : Address.toHex address = .ok (Hex.encode payload))
    (least : 21 ≤ payload.length) (most : payload.length ≤ 30) (amount : Amount) :
    IsWritten address amount payload := by
  cases payload with
  | nil => cases least
  | cons version account =>
      have fits : account.length ≤ wordLength :=
        Nat.le_trans (Nat.le_of_succ_le_succ most) (by decide)
      have filled := length_padded fits
      have contractHex := Address.toContractHex_of_toHex read
      have word : addressWord address = .ok (padded account) :=
        addressWord_of_contractHex contractHex
      have transfer : encodeTransfer address amount =
          .ok (selector transferMethod ++ (padded account ++ amountWord amount)) :=
        encodeTransfer_eq_ok_iff.mpr ⟨_, word, rfl⟩
      have balance : encodeBalanceOf address = .ok (selector balanceMethod ++ padded account) := by
        unfold encodeBalanceOf
        rw [word]
        rfl
      refine ⟨least, most, contractHex, word, filled, ⟨_, transfer, ?_⟩, ⟨_, balance, ?_⟩⟩
      · rw [List.length_append, List.length_append, length_selector, filled, length_amountWord]
        rfl
      · rw [List.length_append, length_selector, filled]
        rfl

/-- The address is refused, and nothing is written. -/
structure IsUnwritten (address : String) (amount : Amount) (failure : Error) : Prop where
  invalid : ∃ text, failure = .invalidAddress text
  contractHex : Address.toContractHex address = .error failure
  transfer : encodeTransfer address amount = .error failure
  balance : encodeBalanceOf address = .error failure

theorem isUnwritten_of_toHex {failure : Error} (failed : Address.toHex address = .error failure)
    (amount : Amount) : IsUnwritten address amount failure := by
  have contractHex : Address.toContractHex address = .error failure := by
    unfold Address.toContractHex
    rw [failed]
    rfl
  have word : addressWord address = .error failure := by
    unfold addressWord
    rw [contractHex]
  refine ⟨Address.invalidAddress_of_toHex failed, contractHex, ?_, ?_⟩
  · unfold encodeTransfer
    rw [word]
    rfl
  · unfold encodeBalanceOf
    rw [word]
    rfl

/-- No slice of an address or of call data fails, whatever the text: the computations that cut them
come to the results of those that do not. An address whose base58 form passes the checksum holds 21
to 30 bytes, without the first of which it is written as the end of a word, as 68 bytes of a transfer
and as 36 of a balance. Any other address is refused by all three. -/
theorem slices_stay_inside (address : String) (amount : Amount) :
    (Slicing.toContractHex address).run = .ok (Address.toContractHex address) ∧
    (Slicing.encodeTransfer address amount).run = .ok (encodeTransfer address amount) ∧
    (Slicing.encodeBalanceOf address).run = .ok (encodeBalanceOf address) ∧
    (∀ form hex, Address.IsForm address form → Address.base58ToHex form = .ok hex →
      ∃ payload, hex = Hex.encode payload ∧ IsWritten address amount payload) ∧
    ((∀ form hex, Address.IsForm address form → Address.base58ToHex form ≠ .ok hex) →
      ∃ failure, IsUnwritten address amount failure) := by
  refine ⟨Slicing.toContractHex_eq address, Slicing.encodeTransfer_eq address amount,
    Slicing.encodeBalanceOf_eq address, fun form hex isForm passes => ?_, fun nothing => ?_⟩
  · obtain ⟨payload, rfl, least, most⟩ := Address.payload_of_form isForm.length passes
    have read := Address.toHex_eq_ok_iff.mpr ⟨form, isForm, passes⟩
    exact ⟨payload, rfl, isWritten_of_toHex read least most amount⟩
  · cases read : Address.toHex address with
    | error failure => exact ⟨failure, isUnwritten_of_toHex read amount⟩
    | ok hex =>
        obtain ⟨form, isForm, passes⟩ := Address.toHex_eq_ok_iff.mp read
        exact absurd passes (nothing form hex isForm)

/-! A payload of 29 bytes, most of them zeros, and a text of 34 bytes that are 17 characters. -/

def longPayload : List UInt8 := List.replicate 28 0 ++ [1]

def longAddress : String := "1111111111111111111111111111BKBaXY"

def wideAddress : String := "ééééééééééééééééé"

theorem slices_stay_inside_longAddress :
    (Slicing.encodeTransfer longAddress million).run = .ok (encodeTransfer longAddress million) ∧
    Address.toContractHex longAddress =
      .ok "0x00000000000000000000000000000000000000000000000000000001" ∧
    (∃ data, encodeTransfer longAddress million = .ok data ∧ data.length = 68) ∧
    (∃ data, encodeBalanceOf longAddress = .ok data ∧ data.length = 36) ∧
    (Slicing.encodeTransfer wideAddress million).run = .ok (encodeTransfer wideAddress million) ∧
    ∃ text, encodeTransfer wideAddress million = .error (.invalidAddress text) := by
  have base58 : Address.base58OfPayload longPayload = longAddress := by decide +kernel
  have behind : "0x" ++ Hex.encode (longPayload.drop 1) =
      "0x00000000000000000000000000000000000000000000000000000001" := by
    decide +kernel
  have isForm : Address.IsForm longAddress longAddress := ⟨by decide +kernel, .inl rfl⟩
  have passes : Address.base58ToHex longAddress = .ok (Hex.encode longPayload) :=
    Address.base58ToHex_eq_ok_iff.mpr ⟨longPayload, by decide, base58.symm, rfl⟩
  have nothing (form hex : String) (isForm : Address.IsForm wideAddress form) :
      Address.base58ToHex form ≠ .ok hex := by
    intro passes
    obtain ⟨payload, -, same, -⟩ := Address.base58ToHex_eq_ok_iff.mp passes
    rcases isForm.leads with rfl | ⟨long, -⟩
    · have ascii := Address.ascii_base58OfPayload payload
      rw [← same] at ascii
      exact absurd (ascii 'é' (by decide +kernel)) (by decide)
    · exact absurd long (by decide +kernel)
  obtain ⟨-, cut, -, written, -⟩ := slices_stay_inside longAddress million
  obtain ⟨-, wideCut, -, -, unwritten⟩ := slices_stay_inside wideAddress million
  obtain ⟨payload, same, isWritten⟩ := written longAddress _ isForm passes
  obtain ⟨failure, isUnwritten⟩ := unwritten nothing
  obtain ⟨text, invalid⟩ := isUnwritten.invalid
  refine ⟨cut, ?_, isWritten.transfer, isWritten.balance, wideCut, text, ?_⟩
  · rw [isWritten.contractHex, ← Hex.encode_inj.mp same, behind]
  · rw [isUnwritten.transfer, invalid]

end Abi
end TronGateway
