import TronGateway.Abi
import TronGateway.Proofs.Address
set_option autoImplicit false

/-!
# What call data says

Call data is read as a transfer exactly when it is the method of a transfer, an account in the last
20 bytes of a word and an amount in a word. The bytes in front of the account and those behind the
amount do not count.
-/

namespace TronGateway.Abi

theorem length_amountWord (amount : Amount) : (amountWord amount).length = wordLength :=
  BigEndian.length_ofNat _ _

theorem toNat_amountWord (amount : Amount) :
    BigEndian.toNat (amountWord amount) = amount.units := by
  have bounded := amount.bounded
  unfold amountWord wordLength
  rw [BigEndian.toNat_ofNat]
  exact Nat.mod_eq_of_lt (Nat.lt_trans bounded (by decide))

theorem ofNat?_eq_some_iff {n : Nat} {amount : Amount} :
    Amount.ofNat? n = some amount ↔ n = amount.units := by
  unfold Amount.ofNat?
  constructor
  · intro made
    split at made
    · cases made
      rfl
    · cases made
  · rintro rfl
    rw [dif_pos amount.bounded]

theorem addressWord_of_contractHex {address : String} {account : List UInt8}
    (contract : Address.toContractHex address = .ok ("0x" ++ Hex.encode account)) :
    addressWord address = .ok (List.replicate (wordLength - account.length) 0 ++ account) := by
  have behind : String.ofList (("0x" ++ Hex.encode account).toList.drop 2) =
      Hex.encode account := by
    rw [String.toList_append]
    exact String.ofList_toList
  unfold addressWord
  rw [contract]
  dsimp only
  rw [behind, Hex.read_encode]

theorem addressWord_base58 {account : List UInt8} (length : account.length = 20) :
    addressWord (Address.base58OfPayload (0x41 :: account)) =
      .ok (List.replicate 12 0 ++ account) := by
  rw [addressWord_of_contractHex (Address.toContractHex_base58 length), length]
  rfl

theorem decodeAmount_eq_ok_iff {word : List UInt8} {amount : Amount} :
    decodeAmount word = .ok amount ↔ word = amountWord amount := by
  unfold decodeAmount
  constructor
  · intro read
    split at read
    · cases read
    · next length =>
        have long : word.length = wordLength := Decidable.not_not.mp length
        split at read
        · next found made =>
            cases read
            unfold amountWord
            rw [← ofNat?_eq_some_iff.mp made, ← long, BigEndian.ofNat_toNat]
        · cases read
  · intro same
    rw [same, if_neg (not_not_intro (length_amountWord amount)),
      ofNat?_eq_some_iff.mpr (toNat_amountWord amount)]

/-- The call data of a transfer of an amount to an account. -/
def IsTransferTo (account : List UInt8) (amount : Amount) (data : List UInt8) : Prop :=
  ∃ filling behind, filling.length = 12 ∧
    data = selector transferMethod ++ ((filling ++ account) ++ (amountWord amount ++ behind))

theorem length_selector (method : String) : (selector method).length = selectorLength := by
  unfold selector selectorLength
  rw [List.length_take, Keccak256.length_digest]
  rfl

theorem encodeTransfer_eq_ok_iff {recipient : String} {amount : Amount} {data : List UInt8} :
    encodeTransfer recipient amount = .ok data ↔ ∃ word, addressWord recipient = .ok word ∧
      data = selector transferMethod ++ (word ++ amountWord amount) := by
  unfold encodeTransfer
  cases addressWord recipient with
  | error failure =>
      constructor
      · intro failed
        cases failed
      · rintro ⟨word, failed, -⟩
        cases failed
  | ok word =>
      change Except.ok (selector transferMethod ++ word ++ amountWord amount) = _ ↔ _
      rw [List.append_assoc]
      constructor
      · intro same
        cases same
        exact ⟨word, rfl, rfl⟩
      · rintro ⟨other, same, rfl⟩
        cases same
        rfl

theorem encodeTransfer_base58 {account : List UInt8} (length : account.length = 20)
    (amount : Amount) :
    encodeTransfer (Address.base58OfPayload (0x41 :: account)) amount =
      .ok (selector transferMethod ++ ((List.replicate 12 0 ++ account) ++ amountWord amount)) :=
  encodeTransfer_eq_ok_iff.mpr ⟨_, addressWord_base58 length, rfl⟩

theorem decodeCall_of_isTransferTo {account data : List UInt8} {amount : Amount}
    (length : account.length = 20) (transfer : IsTransferTo account amount data) :
    decodeCall data = .ok (some ⟨Address.base58OfPayload (0x41 :: account), amount⟩) := by
  obtain ⟨filling, behind, twelve, same⟩ := transfer
  have method := length_selector transferMethod
  have second := length_amountWord amount
  have first : (filling ++ account).length = wordLength := by
    rw [List.length_append, twelve, length]
    rfl
  have arguments : data.drop selectorLength =
      (filling ++ account) ++ (amountWord amount ++ behind) := by
    rw [same, List.drop_left' method]
  have long : ¬ data.length < selectorLength := by
    rw [same, List.length_append, method]
    omega
  have enough : ¬ (data.drop selectorLength).length < 2 * wordLength := by
    rw [arguments, List.length_append, first, List.length_append, second]
    omega
  have called : data.take selectorLength = selector transferMethod := by
    rw [same, List.take_left' method]
  unfold decodeCall
  dsimp only
  rw [if_neg long, if_neg (not_not_intro called), if_neg enough, arguments,
    List.take_left' first, List.drop_left' twelve, List.drop_left' first, List.take_left' second,
    Address.ofAccount_eq length, decodeAmount_eq_ok_iff.mpr rfl]

theorem isTransferTo_of_decodeCall {data : List UInt8} {call : TransferCall}
    (read : decodeCall data = .ok (some call)) :
    ∃ account, account.length = 20 ∧ IsTransferTo account call.amount data ∧
      call.recipient = Address.base58OfPayload (0x41 :: account) := by
  unfold decodeCall at read
  dsimp only at read
  split at read
  · cases read
  · split at read
    · cases read
    · next called =>
        split at read
        · cases read
        · next enough =>
            split at read
            · cases read
            · next recipient spelled =>
                split at read
                · cases read
                · next amount word =>
                    cases read
                    have length := Address.length_of_ofAccount spelled
                    rw [Address.ofAccount_eq length] at spelled
                    refine ⟨_, length,
                      ⟨((data.drop selectorLength).take wordLength).take 12,
                        ((data.drop selectorLength).drop wordLength).drop wordLength, ?_, ?_⟩,
                      (Except.ok.inj spelled).symm⟩
                    · simp only [wordLength, List.length_take] at enough ⊢
                      omega
                    · rw [← Decidable.not_not.mp called, ← decodeAmount_eq_ok_iff.mp word,
                        List.take_append_drop, List.take_append_drop, List.take_append_drop,
                        List.take_append_drop]

theorem decodeCallText_eq_some_iff {text : String} {call : TransferCall} :
    decodeCallText text = .ok (some call) ↔
      ∃ account data, account.length = 20 ∧ Hex.SpellsMarked text.toList data ∧
        IsTransferTo account call.amount data ∧
        call.recipient = Address.base58OfPayload (0x41 :: account) := by
  unfold decodeCallText
  constructor
  · intro read
    split at read
    · cases read
    · next data spelled =>
        obtain ⟨account, length, transfer, recipient⟩ := isTransferTo_of_decodeCall read
        exact ⟨account, data, length, Hex.readMarked_eq_ok_iff.mp spelled, transfer, recipient⟩
  · rintro ⟨account, data, length, spelled, transfer, recipient⟩
    rw [Hex.readMarked_eq_ok_iff.mpr spelled]
    dsimp only
    rw [decodeCall_of_isTransferTo length transfer, ← recipient]

end TronGateway.Abi
