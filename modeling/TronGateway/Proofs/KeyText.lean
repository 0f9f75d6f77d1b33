import TronGateway.Signer
import TronGateway.Proofs.Text.Bech32
import TronGateway.Proofs.Text.Hex
import TronGateway.Proofs.Asset.Spelling
set_option autoImplicit false

/-!
# Spellings of a key

A text is read as a key exactly when it spells the key: with the hexadecimal digits of one of its
encodings, in any case, or in bech32, in letters of one case. Two texts that agree up to the case of
letters and can both be read spell one key, so that the comparison of texts takes no two keys for
one another. A vault is therefore signed for with the own key exactly when the key is that of the
vault.
-/

namespace TronGateway.KeyText

open Curve (PublicKey)

variable {text left right : String} {key leftKey rightKey : PublicKey}

theorem behind?_eq_some_iff {α : Type} [DecidableEq α] {front all rest : List α} :
    behind? front all = some rest ↔ all = front ++ rest := by
  induction front generalizing all with
  | nil => simp [behind?]
  | cons a front ih =>
      cases all with
      | nil => simp [behind?]
      | cons b others =>
          rw [behind?, List.cons_append, List.cons.injEq]
          by_cases same : a = b
          · rw [if_pos same, ih, and_iff_right same.symm]
          · rw [if_neg same]
            simp [Ne.symm same]

theorem endsInPub_iff {readable : String} :
    (behind? "bup".toList readable.toList.reverse).isNone = false ↔
      ∃ front, readable.toList = front ++ "pub".toList := by
  rw [Option.isNone_eq_false_iff, Option.isSome_iff_exists]
  simp only [behind?_eq_some_iff, List.reverse_eq_append_iff]
  constructor
  · rintro ⟨rest, split⟩
    exact ⟨rest.reverse, split⟩
  · rintro ⟨front, split⟩
    exact ⟨front.reverse, by rw [List.reverse_reverse]; exact split⟩

theorem bytesOfBech32_eq_ok_iff {encoded : List UInt8} :
    bytesOfBech32 text = .ok encoded ↔
      ∃ readable values, Bech32.decode text = .ok (readable, values) ∧
        (∃ front, readable.toList = front ++ "pub".toList) ∧
        Bech32.bytes values = .ok (curveMarker ++ encoded) := by
  unfold bytesOfBech32
  cases decoded : Bech32.decode text with
  | error fault => simp
  | ok parts =>
      obtain ⟨readable, values⟩ := parts
      simp only [Except.ok.injEq, Prod.mk.injEq]
      constructor
      · intro read
        split at read
        · cases read
        · next ends =>
            refine ⟨readable, values, ⟨rfl, rfl⟩, endsInPub_iff.mp (Bool.not_eq_true _ ▸ ends), ?_⟩
            split at read
            · cases read
            · next bytes regrouped =>
                split at read
                · next key marked =>
                    cases read
                    rw [regrouped, behind?_eq_some_iff.mp marked]
                · cases read
      · rintro ⟨_, _, ⟨rfl, rfl⟩, ends, regrouped⟩
        rw [endsInPub_iff.mpr ends, regrouped]
        dsimp only
        rw [if_neg Bool.false_ne_true, behind?_eq_some_iff.mpr rfl]

/-- The text spells the key. -/
inductive Spells (text : String) (key : PublicKey) : Prop
  /-- The digits of an encoding of the key. -/
  | hex {encoded : List UInt8} (digits : Hex.Spells text.toList encoded)
    (point : PublicKey.ofBytes encoded = .ok key)
  /-- A readable part that ends in `pub`, and the marker and an encoding of the key as values. -/
  | bech32 {front : List Char} {values checksum : List Nat} {encoded : List UInt8}
    (written : Bech32.IsWritten text.toList (front ++ "pub".toList) values checksum)
    (marked : Bech32.bytes values = .ok (curveMarker ++ encoded))
    (point : PublicKey.ofBytes encoded = .ok key)

theorem parse_eq_ok_iff_bytes :
    parse text = .ok key ↔
      ∃ encoded, bytes text = .ok encoded ∧ PublicKey.ofBytes encoded = .ok key := by
  unfold parse
  cases bytes text with
  | error failure => simp
  | ok encoded =>
      simp only [Except.ok.injEq, exists_eq_left']
      cases PublicKey.ofBytes encoded with
      | error fault => simp [Except.mapError]
      | ok point => simp [Except.mapError]

theorem allDigits_of_spells {encoded : List UInt8} (digits : Hex.Spells text.toList encoded) :
    Hex.allDigits text = true := by
  rw [← Hex.allDigits_toLower, digits]
  exact Hex.allDigits_encode encoded

theorem not_allDigits_of_isWritten {front : List Char} {values checksum : List Nat}
    (written : Bech32.IsWritten text.toList (front ++ "pub".toList) values checksum) :
    Hex.allDigits text = false := by
  rw [← Hex.allDigits_toLower, written.letters]
  unfold Hex.allDigits
  rw [String.toList_ofList, List.all_eq_false]
  exact ⟨'p', by simp, by decide⟩

theorem parse_eq_ok_iff : parse text = .ok key ↔ Spells text key := by
  rw [parse_eq_ok_iff_bytes]
  unfold bytes
  constructor
  · rintro ⟨encoded, read, point⟩
    split at read
    · exact .hex (Hex.decode_eq_ok_iff.mp (Hex.read_eq_ok_iff.mp read)) point
    · obtain ⟨readable, values, decoded, ⟨front, ends⟩, marked⟩ := bytesOfBech32_eq_ok_iff.mp read
      obtain ⟨checksum, written⟩ := Bech32.decode_eq_ok_iff.mp decoded
      rw [ends] at written
      exact .bech32 written marked point
  · intro spells
    cases spells with
    | hex digits point =>
        rw [if_pos (allDigits_of_spells digits)]
        exact ⟨_, Hex.read_eq_ok_iff.mpr (Hex.decode_eq_ok_iff.mpr digits), point⟩
    | @bech32 front values checksum encoded written marked point =>
        have decoded : Bech32.decode text =
            .ok (String.ofList (front ++ "pub".toList), values) := by
          rw [Bech32.decode_eq_ok_iff, String.toList_ofList]
          exact ⟨checksum, written⟩
        rw [if_neg (Bool.not_eq_true _ ▸ not_allDigits_of_isWritten written)]
        exact ⟨encoded, bytesOfBech32_eq_ok_iff.mpr
          ⟨_, values, decoded, ⟨front, String.toList_ofList⟩, marked⟩, point⟩

theorem eq_of_sameLetters (leftRead : parse left = .ok leftKey)
    (rightRead : parse right = .ok rightKey)
    (same : left.toList.map Char.toLower = right.toList.map Char.toLower) : leftKey = rightKey := by
  have leftSpells := parse_eq_ok_iff.mp leftRead
  -- in all cases one of the two texts spells the key of the other one as well
  cases parse_eq_ok_iff.mp rightRead with
  | hex digits point =>
      have other : parse left = .ok rightKey := parse_eq_ok_iff.mpr (.hex (same.trans digits) point)
      exact Except.ok.inj (leftRead.symm.trans other)
  | bech32 written _ _ =>
      have other : parse right = .ok leftKey := by
        cases leftSpells with
        | hex digits point => exact parse_eq_ok_iff.mpr (.hex (same.symm.trans digits) point)
        | bech32 leftWritten marked point =>
            exact parse_eq_ok_iff.mpr
              (.bech32 (leftWritten.recase same written.oneCase) marked point)
      exact Except.ok.inj (other.symm.trans rightRead)

/-! ### The comparison of texts -/

theorem same_iff (leftRead : parse left = .ok leftKey) (rightRead : parse right = .ok rightKey) :
    same left right = true ↔ leftKey = rightKey := by
  unfold same
  rw [leftRead, rightRead]
  by_cases letters : Text.sameIgnoringAsciiCase left right
  · rw [if_pos letters]
    have equal := eq_of_sameLetters leftRead rightRead (Text.sameIgnoringAsciiCase_iff.mp letters)
    exact ⟨fun _ => equal, fun _ => rfl⟩
  · rw [if_neg letters]
    exact decide_eq_true_iff

/-- The texts that can be read as a key. -/
def Readable : Type := { text : String // ∃ key, parse text = .ok key }

def Readable.Same (left right : Readable) : Prop := same left.val right.val = true

theorem Readable.equivalence_same : Equivalence Readable.Same := by
  constructor
  · rintro ⟨text, key, read⟩
    exact (same_iff read read).mpr rfl
  · rintro ⟨left, leftKey, leftRead⟩ ⟨right, rightKey, rightRead⟩ alike
    exact (same_iff rightRead leftRead).mpr ((same_iff leftRead rightRead).mp alike).symm
  · rintro ⟨left, leftKey, leftRead⟩ ⟨middle, middleKey, middleRead⟩
      ⟨right, rightKey, rightRead⟩ first second
    exact (same_iff leftRead rightRead).mpr
      (((same_iff leftRead middleRead).mp first).trans ((same_iff middleRead rightRead).mp second))

/-- The own key signs for a vault exactly when it is the key of the vault. -/
theorem ownKey?_eq_some_iff {signers : Signer.Signers} {secret : Curve.SecretKey} {vault : String}
    {own held : PublicKey} (has : signers.localKey = some secret)
    (ownRead : parse (Signer.publicText secret) = .ok own) (vaultRead : parse vault = .ok held) :
    signers.ownKey? vault = some secret ↔ own = held := by
  unfold Signer.Signers.ownKey?
  rw [has, Option.filter_eq_some_iff, and_iff_right rfl]
  exact same_iff ownRead vaultRead

/-- A text is read as the keys that it spells. Two texts that can be read are taken for one key
exactly when they give one key, so that this is an equivalence among them, and a vault is signed for
with the own key exactly when that is the key of the vault. -/
theorem same_iff_one_key :
    (∀ text key, parse text = .ok key ↔ Spells text key) ∧
    (∀ left right leftKey rightKey, parse left = .ok leftKey → parse right = .ok rightKey →
      (same left right = true ↔ parse left = parse right)) ∧
    Equivalence Readable.Same ∧
    ∀ (signers : Signer.Signers) secret vault own held, signers.localKey = some secret →
      parse (Signer.publicText secret) = .ok own → parse vault = .ok held →
      (signers.ownKey? vault = some secret ↔ own = held) := by
  refine ⟨fun text key => parse_eq_ok_iff, ?_, Readable.equivalence_same, ?_⟩
  · intro left right leftKey rightKey leftRead rightRead
    rw [same_iff leftRead rightRead, leftRead, rightRead, Except.ok.injEq]
  · intro signers secret vault own held has ownRead vaultRead
    exact ownKey?_eq_some_iff has ownRead vaultRead

/-! One key in digits of both cases and in bech32 capitals, and its secret key. -/

def vaultKey : PublicKey where
  x := 0x39a36013301597daef41fbe593a02cc513d0b55527ec2df1050e2e8ff49c85c2
  y := 0x3cbe7ded0e7ce6a594896b8f62888fdbc5c8821305e2ea42bf01e37300116281

def digitText : String := "0339A36013301597DAEF41FBE593A02cc513d0b55527ec2df1050e2e8ff49c85c2"

def capitalText : String :=
  "TTHORPUB1ADDWNPEPQVU6XCQNXQ2E0KH0G8A7TYAQ9NZ3859425N7CT03Q58ZARL5NJZUYXW5FZK"

def vaultSecret : Curve.SecretKey where
  scalar := 0xe8f32e723decf4051aefac8e2c93c9c5b214313817cdb01a1494b917c8436b35
  positive := by decide
  bounded := by decide

theorem parse_digitText : parse digitText = .ok vaultKey :=
  eq_ok_of_toOption (by decide +kernel)

theorem parse_capitalText : parse capitalText = .ok vaultKey :=
  eq_ok_of_toOption (by decide +kernel)

theorem parse_vaultSecret : parse (Signer.publicText vaultSecret) = .ok vaultKey :=
  eq_ok_of_toOption (by decide +kernel)

theorem same_iff_one_key_capitals :
    Text.sameIgnoringAsciiCase capitalText digitText = false ∧
      same capitalText digitText = true ∧
      (⟨some vaultSecret, false, false⟩ : Signer.Signers).ownKey? capitalText =
        some vaultSecret := by
  obtain ⟨-, compared, -, owned⟩ := same_iff_one_key
  have one := parse_capitalText.trans parse_digitText.symm
  exact ⟨by decide, (compared _ _ _ _ parse_capitalText parse_digitText).mpr one,
    (owned _ _ _ _ _ rfl parse_vaultSecret parse_capitalText).mpr rfl⟩

end TronGateway.KeyText
