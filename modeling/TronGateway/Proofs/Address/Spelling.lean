import TronGateway.Proofs.Address
set_option autoImplicit false

/-!
# The three spellings of an account

An address of an account of the main network is written in base58, in hexadecimal behind `41` or in
hexadecimal behind `0x`, the digits of the two latter with letters of either case. The base58
spelling has 34 characters and the others have 42, so that a conversion knows from the length what
it was given. Every conversion gives the same answer for the three spellings, a conversion and its
converse lead back, and no text spells two accounts.
-/

namespace TronGateway

namespace Hex

theorem eq_of_toLower {c d : Char} (below : d.toNat < 'a'.toNat) (same : c.toLower = d) :
    c = d := by
  unfold Char.toLower at same
  split at same
  · next upper =>
      -- What a capital is lowered to comes no earlier than `a`.
      have capital : 65 ≤ c.val.toNat ∧ c.val.toNat ≤ 90 :=
        ⟨UInt32.le_iff_toNat_le.mp upper.1, UInt32.le_iff_toNat_le.mp upper.2⟩
      have raised : d.toNat = (c.val + 32).toNat := by
        rw [← same]
        rfl
      rw [UInt32.toNat_add] at raised
      change d.toNat < 97 at below
      change d.toNat = (c.val.toNat + 32) % 2 ^ 32 at raised
      omega
  · exact same

theorem spells_version_iff {chars : List Char} {account : List UInt8} :
    Spells chars (0x41 :: account) ↔
      ∃ digits, chars = '4' :: '1' :: digits ∧ Spells digits account := by
  unfold Spells
  constructor
  · intro same
    change _ = '4' :: '1' :: encodeChars account at same
    obtain ⟨high, behind, rfl, four, sameBehind⟩ := List.map_eq_cons_iff.mp same
    obtain ⟨low, digits, rfl, one, spelled⟩ := List.map_eq_cons_iff.mp sameBehind
    obtain rfl := eq_of_toLower (by decide) four
    obtain rfl := eq_of_toLower (by decide) one
    exact ⟨digits, rfl, spelled⟩
  · rintro ⟨digits, rfl, spelled⟩
    rw [List.map_cons, List.map_cons, spelled]
    rfl

end Hex

namespace Address

/-- The address is the digits behind the version byte or behind the mark of a contract. -/
def IsMarked (address : String) (digits : List Char) : Prop :=
  address.toList = '4' :: '1' :: digits ∨ address.toList = '0' :: 'x' :: digits

/-- The address is one of the spellings of the account. -/
inductive SpellsAccount (address : String) (account : List UInt8) : Prop where
  | base58 (same : address = base58OfPayload (0x41 :: account))
  | hex (digits : List Char) (marked : IsMarked address digits)
      (spelled : Hex.Spells digits account)

theorem normalizeHex_of_digits {address : String} {digits : List Char}
    (marked : IsMarked address digits) :
    (normalizeHex address).toList = '4' :: '1' :: digits := by
  unfold normalizeHex
  rcases marked with same | same
  · rw [same]
    exact same
  · rw [same]
    change (versionHex ++ String.ofList digits).toList = _
    rw [String.toList_append, String.toList_ofList]
    rfl

theorem byteLength_of_digits {address : String} {digits : List Char} {account : List UInt8}
    (length : account.length = 20) (spelled : Hex.Spells digits account)
    (marked : IsMarked address digits) :
    Utf8.byteLength address = 42 := by
  have bytes : (Utf8.encodeChars digits).length = 40 := by rw [spelled.length, length]
  unfold Utf8.byteLength Utf8.encode
  rcases marked with same | same
  · rw [same, Utf8.encodeChars_cons, Utf8.encodeChars_cons, List.length_append, List.length_append,
      bytes]
    rfl
  · rw [same, Utf8.encodeChars_cons, Utf8.encodeChars_cons, List.length_append, List.length_append,
      bytes]
    rfl

theorem spells_of_digits {address : String} {digits : List Char} {account : List UInt8}
    (length : account.length = 20) (spelled : Hex.Spells digits account)
    (marked : IsMarked address digits) :
    Spells address (0x41 :: account) := by
  apply Spells.hex (byteLength_of_digits length spelled marked)
  rw [Hex.decode_eq_ok_iff, Hex.spells_version_iff]
  exact ⟨digits, normalizeHex_of_digits marked, spelled⟩

theorem convert_of_digits {address : String} {digits : List Char} {account : List UInt8}
    (length : account.length = 20) (spelled : Hex.Spells digits account)
    (marked : IsMarked address digits) :
    convert address = .ok (base58OfPayload (0x41 :: account)) := by
  have long := byteLength_of_digits length spelled marked
  have normal := toBase58_eq_ok_iff.mpr ⟨_, spells_of_digits length spelled marked, rfl⟩
  unfold toBase58 at normal
  rw [long, if_neg (by decide)] at normal
  exact normal

theorem spells_iff {address : String} {account : List UInt8} (length : account.length = 20) :
    Spells address (0x41 :: account) ↔ SpellsAccount address account := by
  constructor
  · intro spells
    cases spells with
    | base58 _ _ same => exact .base58 same
    | hex _ read =>
        obtain ⟨digits, same, spelled⟩ := Hex.spells_version_iff.mp (Hex.decode_eq_ok_iff.mp read)
        unfold normalizeHex at same
        split at same
        · next rest marked =>
            rw [String.toList_append, String.toList_ofList] at same
            obtain rfl : rest = digits := (List.cons.inj (List.cons.inj same).2).2
            exact .hex rest (.inr marked) spelled
        · exact .hex digits (.inl same) spelled
  · intro spells
    cases spells with
    | base58 same => exact same ▸ spells_base58OfPayload length
    | hex digits marked spelled => exact spells_of_digits length spelled marked

theorem SpellsAccount.unique {address : String} {account other : List UInt8}
    (length : account.length = 20) (otherLength : other.length = 20)
    (spells : SpellsAccount address account) (spellsOther : SpellsAccount address other) :
    other = account := by
  have hex := toHex_of_spells length ((spells_iff length).mpr spells)
  rw [toHex_of_spells otherLength ((spells_iff otherLength).mpr spellsOther)] at hex
  exact List.tail_eq_of_cons_eq (Hex.encode_inj.mp (Except.ok.inj hex))

/--
The spellings of the 20 bytes of an account. The base58 one has 34 characters and is what the bytes
themselves, and both hexadecimal spellings with letters of either case, are converted to. The three
normal forms do not depend on the spelling. Any text that base58 reads as the account behind the
version byte, followed by the checksum of both, is that spelling and is converted forth and back.
-/
theorem spellings_agree {account : List UInt8} (length : account.length = 20) :
    (base58OfPayload (0x41 :: account)).length = 34 ∧
    ofAccount account = .ok (base58OfPayload (0x41 :: account)) ∧
    convert (base58OfPayload (0x41 :: account)) = .ok (Hex.encode (0x41 :: account)) ∧
    (∀ address digits, IsMarked address digits → Hex.Spells digits account →
      convert address = .ok (base58OfPayload (0x41 :: account))) ∧
    (∀ address, SpellsAccount address account →
      toBase58 address = .ok (base58OfPayload (0x41 :: account)) ∧
      toHex address = .ok (Hex.encode (0x41 :: account)) ∧
      toContractHex address = .ok ("0x" ++ Hex.encode account)) ∧
    (∀ text, Base58.decode text = .ok (0x41 :: account ++ checksum (0x41 :: account)) →
      text = base58OfPayload (0x41 :: account) ∧
      ∃ hex, convert text = .ok hex ∧ convert hex = .ok text) ∧
    (∀ address other, other.length = 20 → SpellsAccount address account →
      SpellsAccount address other → other = account) := by
  refine ⟨(length_base58OfPayload _).trans (byteLength_base58OfPayload length),
    ofAccount_eq length, convert_base58 length,
    fun address digits marked spelled => convert_of_digits length spelled marked,
    fun address spells => ?_, fun text read => ?_,
    fun address other otherLength spells spellsOther =>
      spells.unique length otherLength spellsOther⟩
  · have payload := (spells_iff length).mpr spells
    exact ⟨toBase58_eq_ok_iff.mpr ⟨_, payload, rfl⟩, toHex_of_spells length payload,
      toContractHex_of_spells length payload⟩
  · obtain rfl : text = base58OfPayload (0x41 :: account) := Base58.decode_eq_ok_iff.mp read
    exact ⟨rfl, _, convert_base58 length, convert_hex length⟩

def contractAccount : List UInt8 :=
  [0x88, 0x40, 0xe6, 0xc5, 0x5b, 0x9a, 0xda, 0x32, 0x6d, 0x21,
    0x1d, 0x81, 0x8c, 0x34, 0xa9, 0x94, 0xae, 0xce, 0xd8, 0x08]

theorem spellings_agree_mixedCase :
    convert "0x8840E6c55B9ADA326D211d818C34A994AECED808" =
        .ok "TNPeeaaFB7K9cmo4uQpcU32zGK8G1NYqeL" ∧
      toHex "0x8840E6c55B9ADA326D211d818C34A994AECED808" =
        .ok "418840e6c55b9ada326d211d818c34a994aeced808" := by
  have marked : IsMarked "0x8840E6c55B9ADA326D211d818C34A994AECED808"
      "8840E6c55B9ADA326D211d818C34A994AECED808".toList :=
    .inr (by decide +kernel)
  have spelled : Hex.Spells "8840E6c55B9ADA326D211d818C34A994AECED808".toList contractAccount := by
    unfold Hex.Spells
    decide +kernel
  have base58 : base58OfPayload (0x41 :: contractAccount) =
      "TNPeeaaFB7K9cmo4uQpcU32zGK8G1NYqeL" := by
    decide +kernel
  have hex : Hex.encode (0x41 :: contractAccount) =
      "418840e6c55b9ada326d211d818c34a994aeced808" := by
    decide +kernel
  obtain ⟨-, -, -, converted, normal, -⟩ :=
    spellings_agree (show contractAccount.length = 20 from rfl)
  rw [← base58, ← hex]
  exact ⟨converted _ _ marked spelled, (normal _ (.hex _ marked spelled)).2.1⟩

end Address
end TronGateway
