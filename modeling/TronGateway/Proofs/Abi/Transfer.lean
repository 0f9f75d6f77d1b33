import TronGateway.Proofs.Abi
import TronGateway.Proofs.Address.Spelling
import TronGateway.Proofs.Number.Bytes
set_option autoImplicit false

/-!
# Transfers as call data

A transfer is written as 68 bytes that depend on the account and the amount and not on how the
account is spelled, and it is read back from them. Call data of any other shape is read too: as
nothing when it calls another method, as a transfer when the amount leaves the upper half of its
word empty, and with an error otherwise. A transfer that is read is written as the first 68 bytes
again, but for the bytes in front of the account.
-/

namespace TronGateway

namespace BigEndian

theorem ofNat_append (front back value : Nat) :
    ofNat (front + back) value = ofNat front (value / 256 ^ back) ++ ofNat back value := by
  induction back generalizing value with
  | zero => rw [Nat.pow_zero, Nat.div_one, ofNat, List.append_nil, Nat.add_zero]
  | succ back ih =>
      rw [← Nat.add_assoc, ofNat, ofNat, ih, List.append_assoc, Nat.pow_succ',
        Nat.div_div_eq_div_mul]

theorem ofNat_zero (count : Nat) : ofNat count 0 = List.replicate count 0 := by
  induction count with
  | zero => rfl
  | succ count ih =>
      rw [ofNat, Nat.zero_div, ih, List.replicate_succ']
      rfl

end BigEndian

namespace Abi

theorem amountWord_eq (amount : Amount) :
    amountWord amount = List.replicate 16 0 ++ BigEndian.ofNat 16 amount.units := by
  have half : 256 ^ 16 = 0x100000000000000000000000000000000 := by decide
  have empty : amount.units / 256 ^ 16 = 0 := by
    rw [half]
    exact Nat.div_eq_of_lt amount.bounded
  have halves : wordLength = 16 + 16 := rfl
  unfold amountWord
  rw [halves, BigEndian.ofNat_append, empty, BigEndian.ofNat_zero]

theorem exists_amountWord_iff {word : List UInt8} (length : word.length = 32) :
    (∃ amount, word = amountWord amount) ↔ ∀ byte ∈ word.take 16, byte = 0 := by
  constructor
  · rintro ⟨amount, same⟩ byte member
    rw [same, amountWord_eq, List.take_left' List.length_replicate] at member
    exact List.eq_of_mem_replicate member
  · intro empty
    have short : (word.drop 16).length = 16 := by rw [List.length_drop, length]
    have front : word.take 16 = List.replicate 16 0 := by
      refine List.eq_replicate_iff.mpr ⟨?_, empty⟩
      rw [List.length_take, length]
      rfl
    have bounded : BigEndian.toNat (word.drop 16) < 0x100000000000000000000000000000000 := by
      rw [← BigEndian.ofNat_toNat (word.drop 16), BigEndian.toNat_ofNat, short]
      exact Nat.mod_lt _ (by decide)
    refine ⟨⟨BigEndian.toNat (word.drop 16), bounded⟩, ?_⟩
    have back := BigEndian.ofNat_toNat (word.drop 16)
    rw [short] at back
    rw [amountWord_eq, ← front, back, List.take_append_drop]

theorem selector_transferMethod : selector transferMethod = [0xa9, 0x05, 0x9c, 0xbb] := by
  decide +kernel

/-- The call data of a transfer to an account. -/
def transferData (account : List UInt8) (amount : Amount) : List UInt8 :=
  selector transferMethod ++ ((List.replicate 12 0 ++ account) ++ amountWord amount)

/-- The first 68 bytes, with zeros in front of the account. -/
def withoutFilling (data : List UInt8) : List UInt8 :=
  data.take 4 ++ (List.replicate 12 0 ++ (data.drop 16).take 52)

/-- The call data names a method, and another one than that of a transfer. -/
structure CallsOther (data : List UInt8) : Prop where
  length : 4 ≤ data.length
  method : data.take 4 ≠ selector transferMethod

/-- The call data is long enough for a transfer, and the upper half of its amount is empty. -/
structure HoldsTransfer (data : List UInt8) : Prop where
  length : 68 ≤ data.length
  method : data.take 4 = selector transferMethod
  fits : ∀ byte ∈ (data.drop 36).take 16, byte = 0

variable {account data : List UInt8} {amount : Amount}

theorem length_transferData (length : account.length = 20) :
    (transferData account amount).length = 68 := by
  unfold transferData
  rw [List.length_append, List.length_append, List.length_append, List.length_replicate,
    length_selector, length_amountWord, length]
  rfl

theorem isTransferTo_transferData : IsTransferTo account amount (transferData account amount) := by
  refine ⟨List.replicate 12 0, [], List.length_replicate, ?_⟩
  rw [List.append_nil]
  rfl

theorem split_arguments (data : List UInt8) :
    data = data.take 4 ++ (((data.drop 4).take 12 ++ (data.drop 16).take 20) ++
      ((data.drop 36).take 32 ++ data.drop 68)) := by
  have behind (count more : Nat) : (data.drop count).take more ++ data.drop (count + more) =
      data.drop count := by
    rw [← List.drop_drop, List.take_append_drop]
  rw [behind 36 32, List.append_assoc, behind 16 20, behind 4 12, List.take_append_drop]

theorem holdsTransfer_iff :
    HoldsTransfer data ↔
      ∃ account amount, account.length = 20 ∧ IsTransferTo account amount data := by
  constructor
  · intro holds
    have long := holds.length
    have word : ((data.drop 36).take 32).length = 32 := by
      rw [List.length_take, List.length_drop]
      omega
    have upper : ((data.drop 36).take 32).take 16 = (data.drop 36).take 16 := by
      rw [List.take_take]
      rfl
    obtain ⟨amount, same⟩ := (exists_amountWord_iff word).mpr (upper ▸ holds.fits)
    refine ⟨(data.drop 16).take 20, amount, ?_, (data.drop 4).take 12, data.drop 68, ?_, ?_⟩
    · rw [List.length_take, List.length_drop]
      omega
    · rw [List.length_take, List.length_drop]
      omega
    · rw [← holds.method, ← same]
      exact split_arguments data
  · rintro ⟨account, amount, length, filling, behind, twelve, rfl⟩
    have method : (selector transferMethod).length = 4 := length_selector _
    have word : (amountWord amount).length = 32 := length_amountWord amount
    have front : (selector transferMethod ++ (filling ++ account)).length = 36 := by
      rw [List.length_append, List.length_append, method, twelve, length]
    have regrouped : selector transferMethod ++ ((filling ++ account) ++
        (amountWord amount ++ behind)) =
        (selector transferMethod ++ (filling ++ account)) ++ (amountWord amount ++ behind) :=
      (List.append_assoc _ _ _).symm
    refine ⟨?_, List.take_left' method, ?_⟩
    · rw [regrouped, List.length_append, front, List.length_append, word]
      omega
    · rw [regrouped, List.drop_left' front, List.take_append_of_le_length (by omega)]
      exact (exists_amountWord_iff word).mp ⟨amount, rfl⟩

theorem withoutFilling_of_isTransferTo (length : account.length = 20)
    (transfer : IsTransferTo account amount data) :
    withoutFilling data = transferData account amount := by
  obtain ⟨filling, behind, twelve, rfl⟩ := transfer
  have method : (selector transferMethod).length = 4 := length_selector _
  have word : (amountWord amount).length = 32 := length_amountWord amount
  have front : (selector transferMethod ++ filling).length = 16 := by
    rw [List.length_append, method, twelve]
  have middle : (account ++ amountWord amount).length = 52 := by
    rw [List.length_append, length, word]
  have regrouped : selector transferMethod ++ ((filling ++ account) ++
      (amountWord amount ++ behind)) =
      (selector transferMethod ++ filling) ++ ((account ++ amountWord amount) ++ behind) := by
    simp only [List.append_assoc]
  unfold withoutFilling transferData
  rw [List.take_left' method, regrouped, List.drop_left' front, List.take_left' middle,
    List.append_assoc (List.replicate 12 0)]

/-! ### Reading -/

theorem decodeCall_eq_none_iff : decodeCall data = .ok none ↔ CallsOther data := by
  unfold decodeCall
  dsimp only
  constructor
  · intro read
    split at read
    · cases read
    · next long =>
        split at read
        · next other => exact ⟨Nat.le_of_not_lt long, other⟩
        · split at read
          · cases read
          · split at read
            · cases read
            · split at read
              · cases read
              · cases read
  · intro other
    have long : ¬ data.length < selectorLength := Nat.not_lt_of_le other.length
    have method : data.take selectorLength ≠ selector transferMethod := other.method
    rw [if_neg long, if_pos method]

theorem decode_of_decodeCall {failure : Error} (failed : decodeCall data = .error failure) :
    ∃ message, failure = .decode message := by
  unfold decodeCall at failed
  dsimp only at failed
  split at failed
  · cases failed
    exact ⟨_, rfl⟩
  · split at failed
    · cases failed
    · split at failed
      · cases failed
        exact ⟨_, rfl⟩
      · next enough =>
          have length : (((data.drop selectorLength).take wordLength).drop 12).length = 20 := by
            simp only [wordLength, List.length_drop, List.length_take] at enough ⊢
            omega
          rw [Address.ofAccount_eq length] at failed
          dsimp only at failed
          split at failed
          · next refused =>
              cases failed
              unfold decodeAmount at refused
              split at refused
              · cases refused
                exact ⟨_, rfl⟩
              · split at refused
                · cases refused
                · cases refused
                  exact ⟨_, rfl⟩
          · cases failed

theorem decodeCall_isSome_iff :
    (∃ call, decodeCall data = .ok (some call)) ↔ HoldsTransfer data := by
  rw [holdsTransfer_iff]
  constructor
  · rintro ⟨call, read⟩
    obtain ⟨account, length, transfer, -⟩ := isTransferTo_of_decodeCall read
    exact ⟨account, call.amount, length, transfer⟩
  · rintro ⟨account, amount, length, transfer⟩
    exact ⟨_, decodeCall_of_isTransferTo length transfer⟩

theorem decodeCall_of_malformed (other : ¬ CallsOther data) (transfer : ¬ HoldsTransfer data) :
    ∃ message, decodeCall data = .error (.decode message) := by
  cases read : decodeCall data with
  | error failure =>
      obtain ⟨message, rfl⟩ := decode_of_decodeCall read
      exact ⟨message, rfl⟩
  | ok found =>
      cases found with
      | none => exact absurd (decodeCall_eq_none_iff.mp read) other
      | some call => exact absurd (decodeCall_isSome_iff.mp ⟨call, read⟩) transfer

/-! ### Writing -/

theorem encodeTransfer_of_spells {recipient : String} (length : account.length = 20)
    (spells : Address.SpellsAccount recipient account) (amount : Amount) :
    encodeTransfer recipient amount = .ok (transferData account amount) := by
  have contract := Address.toContractHex_of_spells length ((Address.spells_iff length).mpr spells)
  have word : addressWord recipient = .ok (List.replicate 12 0 ++ account) := by
    rw [addressWord_of_contractHex contract, length]
    rfl
  exact encodeTransfer_eq_ok_iff.mpr ⟨_, word, rfl⟩

theorem encodeTransfer_of_decodeCall {call : TransferCall}
    (read : decodeCall data = .ok (some call)) :
    encodeTransfer call.recipient call.amount = .ok (withoutFilling data) := by
  obtain ⟨account, length, transfer, recipient⟩ := isTransferTo_of_decodeCall read
  rw [recipient, withoutFilling_of_isTransferTo length transfer]
  exact encodeTransfer_base58 length call.amount

theorem decodeCallText_of_spells {text : String} (spelled : Hex.SpellsMarked text.toList data) :
    decodeCallText text = decodeCall data := by
  unfold decodeCallText
  rw [Hex.readMarked_eq_ok_iff.mpr spelled]

/-- A transfer is written as the same 68 bytes for each spelling of the recipient, and read back
from every spelling of them. Of any bytes, those with another method are read as no transfer and
those with an amount that fits as one, which is written as the first 68 of them without the filling;
all others fail to be decoded. -/
theorem transfers_read_back :
    (∀ (account : List UInt8) (amount : Amount), account.length = 20 →
      (transferData account amount).length = 68 ∧
      (∀ recipient, Address.SpellsAccount recipient account →
        encodeTransfer recipient amount = .ok (transferData account amount)) ∧
      ∀ text, Hex.SpellsMarked text.toList (transferData account amount) →
        decodeCallText text =
          .ok (some ⟨Address.base58OfPayload (0x41 :: account), amount⟩)) ∧
    ∀ (data : List UInt8) (text : String), Hex.SpellsMarked text.toList data →
      (decodeCallText text = .ok none ↔ CallsOther data) ∧
      ((∃ call, decodeCallText text = .ok (some call)) ↔ HoldsTransfer data) ∧
      (∀ call, decodeCallText text = .ok (some call) →
        encodeTransfer call.recipient call.amount = .ok (withoutFilling data)) ∧
      (¬ CallsOther data → ¬ HoldsTransfer data →
        ∃ message, decodeCallText text = .error (.decode message)) := by
  constructor
  · intro account amount length
    refine ⟨length_transferData length, fun recipient spells =>
      encodeTransfer_of_spells length spells amount, fun text spelled => ?_⟩
    rw [decodeCallText_of_spells spelled]
    exact decodeCall_of_isTransferTo length isTransferTo_transferData
  · intro data text spelled
    rw [decodeCallText_of_spells spelled]
    exact ⟨decodeCall_eq_none_iff, decodeCall_isSome_iff,
      fun call => encodeTransfer_of_decodeCall, decodeCall_of_malformed⟩

/-! Call data with a filling and two bytes behind the amount. -/

def million : Amount := ⟨1000000, by decide⟩

def filledData : List UInt8 :=
  [0xa9, 0x05, 0x9c, 0xbb] ++ ((List.replicate 12 0xff ++ Address.contractAccount) ++
    (amountWord million ++ [0xab, 0xc0]))

def filledText : String :=
  "0xA9059cbbffffffffffffffffffffffff8840E6C55b9ada326d211d818c34a994aeced808" ++
    "00000000000000000000000000000000000000000000000000000000000F4240aBc0"

theorem transfers_read_back_filledText :
    encodeTransfer "0x8840E6c55B9ADA326D211d818C34A994AECED808" million =
        .ok (transferData Address.contractAccount million) ∧
      decodeCallText (Hex.encode (transferData Address.contractAccount million)) =
        .ok (some ⟨"TNPeeaaFB7K9cmo4uQpcU32zGK8G1NYqeL", million⟩) ∧
      withoutFilling filledData = transferData Address.contractAccount million ∧
      (∃ call, decodeCallText filledText = .ok (some call) ∧
        encodeTransfer call.recipient call.amount = .ok (withoutFilling filledData)) ∧
      ∃ message, decodeCallText "a9059c" = .error (.decode message) := by
  have base58 : Address.base58OfPayload (0x41 :: Address.contractAccount) =
      "TNPeeaaFB7K9cmo4uQpcU32zGK8G1NYqeL" := by
    decide +kernel
  have recipient : Address.SpellsAccount "0x8840E6c55B9ADA326D211d818C34A994AECED808"
      Address.contractAccount := by
    refine .hex "8840E6c55B9ADA326D211d818C34A994AECED808".toList (.inr (by decide +kernel)) ?_
    unfold Hex.Spells
    decide +kernel
  have plain (data : List UInt8) : Hex.SpellsMarked (Hex.encode data).toList data :=
    ⟨0, (Hex.encode data).toList, rfl, Hex.decode_eq_ok_iff.mp (Hex.decode_encode data)⟩
  have filled : Hex.SpellsMarked filledText.toList filledData := by
    refine ⟨1, filledText.toList.drop 2, by decide +kernel, ?_⟩
    unfold Hex.Spells
    decide +kernel
  have short : Hex.SpellsMarked "a9059c".toList [0xa9, 0x05, 0x9c] := by
    refine ⟨0, "a9059c".toList, rfl, ?_⟩
    unfold Hex.Spells
    decide +kernel
  have transfer : IsTransferTo Address.contractAccount million filledData := by
    refine ⟨List.replicate 12 0xff, [0xab, 0xc0], rfl, ?_⟩
    rw [selector_transferMethod]
    rfl
  have holds := holdsTransfer_iff.mpr ⟨_, _, rfl, transfer⟩
  obtain ⟨written, read⟩ := transfers_read_back
  obtain ⟨-, encoded, decoded⟩ := written Address.contractAccount million rfl
  obtain ⟨-, someCall, rewritten, -⟩ := read filledData filledText filled
  obtain ⟨-, -, -, malformed⟩ := read [0xa9, 0x05, 0x9c] "a9059c" short
  obtain ⟨call, found⟩ := someCall.mpr holds
  refine ⟨encoded _ recipient, ?_, withoutFilling_of_isTransferTo rfl transfer,
    ⟨call, found, rewritten call found⟩, malformed (fun other => absurd other.length (by decide))
      fun transfer => absurd transfer.length (by decide)⟩
  rw [decoded _ (plain _), base58]

end Abi
end TronGateway
