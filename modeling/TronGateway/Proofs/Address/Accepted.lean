import TronGateway.Proofs.Address.Spelling
set_option autoImplicit false

/-!
# What is taken for an address

A conversion looks at the length of a text, at its digits and at its checksum. It looks neither at
the version byte nor at the length of the payload, so that addresses of other networks are converted
as well. Their payload has 21 bytes unless it begins with a zero, and up to nine more if it does.
What does not spell a payload is refused.
-/

namespace TronGateway

namespace Hex

theorem Spells.encode_eq {chars : List Char} {bytes : List UInt8} (spells : Spells chars bytes) :
    encode bytes = String.ofList (chars.map Char.toLower) := by
  unfold encode
  rw [show chars.map Char.toLower = encodeChars bytes from spells]

end Hex

namespace Address

variable {address : String} {payload : List UInt8}

/-- What a spelling is converted to. -/
def otherSpelling (address : String) (payload : List UInt8) : String :=
  if Utf8.byteLength address = base58Length then Hex.encode payload else base58OfPayload payload

/-- Base58 as it is, and hexadecimal in lower case with the version byte in front. -/
def normal (address : String) : String :=
  if Utf8.byteLength address = base58Length then address
  else String.ofList ((normalizeHex address).toList.map Char.toLower)

/-- The conversion fails, and its error names the text. -/
def IsRefused (address : String) : Prop :=
  ∃ detail, convert address = .error (.invalidAddress (address ++ detail))

/-- Both spellings of the payload have the lengths by which spellings are told apart. -/
def IsTold (payload : List UInt8) : Prop :=
  payload.length = 21 ∧ Utf8.byteLength (base58OfPayload payload) = 34

theorem convert_eq_ok_iff {other : String} :
    convert address = .ok other ↔
      ∃ payload, Spells address payload ∧ other = otherSpelling address payload := by
  constructor
  · intro converted
    unfold convert at converted
    dsimp only at converted
    split at converted
    · next short =>
        obtain ⟨payload, nonempty, same, hex⟩ := base58ToHex_eq_ok_iff.mp converted
        exact ⟨payload, .base58 short nonempty same, hex.trans (if_pos short).symm⟩
    · next other =>
        split at converted
        · next long =>
            obtain ⟨payload, read, base58⟩ := hexToBase58_eq_ok_iff.mp converted
            exact ⟨payload, .hex long read, base58.trans (if_neg other).symm⟩
        · cases converted
  · intro ⟨payload, spells, same⟩
    rw [same]
    unfold otherSpelling
    cases spells with
    | base58 short nonempty spelled =>
        rw [if_pos (by exact short), convert_of_base58 short]
        exact base58ToHex_eq_ok_iff.mpr ⟨payload, nonempty, spelled, rfl⟩
    | hex long read =>
        rw [if_neg (by rw [long]; decide), convert_of_hex long]
        exact hexToBase58_eq_ok_iff.mpr ⟨payload, read, rfl⟩

theorem isRefused_of_error {failure : Error} (failed : convert address = .error failure) :
    IsRefused address := by
  unfold IsRefused
  rw [failed]
  unfold convert at failed
  dsimp only at failed
  split at failed
  · unfold base58ToHex at failed
    split at failed
    · cases failed
      exact ⟨_, by rw [String.append_assoc]⟩
    · split at failed
      · cases failed
        exact ⟨_, rfl⟩
      · dsimp only at failed
        split at failed
        · cases failed
        · cases failed
          exact ⟨_, rfl⟩
  · split at failed
    · unfold hexToBase58 at failed
      split at failed
      · cases failed
        exact ⟨_, by rw [String.append_assoc]⟩
      · cases failed
    · cases failed
      exact ⟨_, by rw [String.append_assoc, String.append_assoc]⟩

theorem isRefused_of_not_spelled (nothing : ∀ payload, ¬ Spells address payload) :
    IsRefused address := by
  cases converted : convert address with
  | error failure => exact isRefused_of_error converted
  | ok other =>
      obtain ⟨payload, spells, -⟩ := convert_eq_ok_iff.mp converted
      exact absurd spells (nothing payload)

theorem isRefused_of_length (notBase58 : Utf8.byteLength address ≠ 34)
    (notHex : Utf8.byteLength address ≠ 42) : IsRefused address := by
  apply isRefused_of_not_spelled
  intro payload spells
  cases spells with
  | base58 length _ _ => exact notBase58 length
  | hex length _ => exact notHex length

/-! ### Payloads -/

theorem length_of_base58 (nonempty : payload ≠ [])
    (length : Utf8.byteLength (base58OfPayload payload) = 34) :
    21 ≤ payload.length ∧ payload.length ≤ 30 ∧
      (payload.head? ≠ some 0 → payload.length = 21) := by
  obtain ⟨least, most, exactly⟩ := Base58.length_of_byteLength_encode length
  rw [List.length_append, length_checksum, checksumLength] at least most exactly
  refine ⟨by omega, by omega, fun head => ?_⟩
  cases payload with
  | nil => exact absurd rfl nonempty
  | cons version rest =>
      have all := exactly head
      omega

/-- A payload that an address spells, and what becomes of the address. -/
structure Converts (address : String) (payload : List UInt8) : Prop where
  forth : convert address = .ok (otherSpelling address payload)
  least : 21 ≤ payload.length
  most : payload.length ≤ 30
  exactly : Utf8.byteLength address = 42 ∨ payload.head? ≠ some 0 → payload.length = 21
  version : ∀ first rest, payload = first :: rest → first ≠ 0 → Utf8.byteLength address = 34 →
    2 ≤ first.toNat ∧ first.toNat ≤ 144
  back : IsTold payload → convert (otherSpelling address payload) = .ok (normal address)
  lost : ¬ IsTold payload → IsRefused (otherSpelling address payload)

theorem Spells.converts (spells : Spells address payload) : Converts address payload := by
  have forth := convert_eq_ok_iff.mpr ⟨payload, spells, rfl⟩
  have different := spells.byteLength_ne
  cases spells with
  | base58 short nonempty same =>
      have other : otherSpelling address payload = Hex.encode payload := if_pos short
      have length : Utf8.byteLength (base58OfPayload payload) = 34 := by rw [← same, short]
      obtain ⟨least, most, exactly⟩ := length_of_base58 nonempty length
      refine ⟨forth, least, most, ?_, ?_, ?_, ?_⟩
      · intro cases
        rcases cases with long | head
        · rw [short] at long
          cases long
        · exact exactly head
      · intro first rest split nonzero _
        rw [split] at length
        exact (Base58.of_byteLength_encode nonzero length).2
      · intro told
        have long : Utf8.byteLength (Hex.encode payload) = 42 := by
          rw [Hex.byteLength_encode, told.1]
        rw [other, convert_of_hex long, hexToBase58_eq_ok_iff]
        refine ⟨payload, ?_, ?_⟩
        · rw [normalizeHex_encode, Hex.decode_encode]
        · exact (if_pos short).trans same
      · intro lost
        rw [other]
        have bytes := Hex.byteLength_encode payload
        apply isRefused_of_length
        · omega
        · intro long
          exact lost ⟨by omega, length⟩
  | hex long read =>
      have notBase58 : ¬ Utf8.byteLength address = base58Length := by
        rw [long]
        decide
      have other : otherSpelling address payload = base58OfPayload payload := if_neg notBase58
      have length := length_of_hex long read
      refine ⟨forth, by omega, by omega, fun _ => length, ?_, ?_, ?_⟩
      · intro _ _ _ _ short
        exact absurd short notBase58
      · intro told
        rw [other, convert_of_base58 told.2, base58ToHex_eq_ok_iff]
        refine ⟨payload, List.ne_nil_of_length_pos (by omega), rfl, ?_⟩
        rw [(Hex.decode_eq_ok_iff.mp read).encode_eq]
        exact if_neg notBase58
      · intro lost
        rw [other]
        exact isRefused_of_length (fun short => lost ⟨length, short⟩) different

/--
A text is converted exactly when it spells a payload, and refused otherwise. The payload has at least
21 bytes, and no more when it is spelled in hexadecimal or does not begin with a zero. The result
leads back to the address in its normal form when the two spellings of the payload can be told apart,
and is refused when they cannot. What begins with the version byte of the main network is the address
of an account and leads back.
-/
theorem convert_takes_spelled_payloads (address : String) :
    (∀ payload, Spells address payload → Converts address payload) ∧
    ((∀ payload, ¬ Spells address payload) → IsRefused address) ∧
    ∀ account, Spells address (0x41 :: account) →
      account.length = 20 ∧ SpellsAccount address account ∧ IsTold (0x41 :: account) := by
  refine ⟨fun payload spells => spells.converts, isRefused_of_not_spelled, ?_⟩
  intro account spells
  have length := spells.length_account
  refine ⟨length, (spells_iff length).mp spells, ?_, byteLength_base58OfPayload length⟩
  rw [List.length_cons, length]

/-- The address of another network, whose version byte is 5, is converted forth and back. So is a
payload of zeros, which does not lead back. -/
theorem foreignAddress_is_converted :
    convert "3E7Ta4gxaHWaYmRsSEqVNWhnW3ffN2sj4r" =
      .ok "058840e6c55b9ada326d211d818c34a994aeced808" ∧
    convert "058840e6c55b9ada326d211d818c34a994aeced808" =
      .ok "3E7Ta4gxaHWaYmRsSEqVNWhnW3ffN2sj4r" ∧
    (∀ account, ¬ Spells "3E7Ta4gxaHWaYmRsSEqVNWhnW3ffN2sj4r" (0x41 :: account)) ∧
    convert "000000000000000000000000000000000000000000" = .ok "1111111111111111111114oLvT2" ∧
    IsRefused "1111111111111111111114oLvT2" := by
  have base58 : base58OfPayload (0x05 :: contractAccount) =
      "3E7Ta4gxaHWaYmRsSEqVNWhnW3ffN2sj4r" := by
    decide +kernel
  have zeros : base58OfPayload (List.replicate 21 0) = "1111111111111111111114oLvT2" := by
    decide +kernel
  have hex : Hex.encode (0x05 :: contractAccount) =
      "058840e6c55b9ada326d211d818c34a994aeced808" := by
    decide +kernel
  have short : Utf8.byteLength "3E7Ta4gxaHWaYmRsSEqVNWhnW3ffN2sj4r" = 34 := by decide +kernel
  have converted : convert "3E7Ta4gxaHWaYmRsSEqVNWhnW3ffN2sj4r" =
      .ok "058840e6c55b9ada326d211d818c34a994aeced808" := by
    rw [convert_of_base58 short, base58ToHex_eq_ok_iff]
    exact ⟨0x05 :: contractAccount, List.cons_ne_nil _ _, base58.symm, hex.symm⟩
  have back : convert "058840e6c55b9ada326d211d818c34a994aeced808" =
      .ok "3E7Ta4gxaHWaYmRsSEqVNWhnW3ffN2sj4r" := by
    rw [convert_of_hex (by decide +kernel), hexToBase58_eq_ok_iff]
    exact ⟨0x05 :: contractAccount, by decide +kernel, base58.symm⟩
  have zerosConverted : convert "000000000000000000000000000000000000000000" =
      .ok "1111111111111111111114oLvT2" := by
    rw [convert_of_hex (by decide +kernel), hexToBase58_eq_ok_iff]
    exact ⟨List.replicate 21 0, by decide +kernel, zeros.symm⟩
  refine ⟨converted, back, ?_, zerosConverted, ?_⟩
  · intro account spells
    have other := spells.converts.forth
    rw [converted, ← hex] at other
    have same := congrArg Hex.decode ((Except.ok.inj other).trans (if_pos short))
    rw [Hex.decode_encode, Hex.decode_encode] at same
    cases same
  · exact isRefused_of_length (by decide +kernel) (by decide +kernel)

end Address
end TronGateway
