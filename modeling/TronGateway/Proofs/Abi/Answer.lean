import TronGateway.Proofs.Abi.Transfer
import TronGateway.Proofs.Number.Checked
import Mathlib.Data.List.TakeWhile
set_option autoImplicit false

/-!
# What contracts answer

A text is read back from every answer that encodes it, whatever the padding and the bytes behind
it. An answer of one word is read up to its first zero byte. Any other answer is read exactly when
its place and its length have 64 bits and what they point at is inside the answer, which is said
here over the numbers without bounds. Amounts are read from the first word of an answer.
-/

namespace TronGateway

theorem Hex.length_lt_of_spellsMarked {text : String} {bytes : List UInt8}
    (held : Utf8.FitsMemory text) (spelled : SpellsMarked text.toList bytes) :
    bytes.length < 2 ^ 64 := by
  obtain ⟨marks, digits, split, spells⟩ := spelled
  have counted := spells.length
  unfold Utf8.FitsMemory Utf8.byteLength Utf8.encode at held
  rw [split] at held
  unfold Utf8.encodeChars at held counted
  rw [List.flatMap_append, List.length_append] at held
  omega

namespace Abi

variable {bytes word : List UInt8}

theorem decodeAmount_eq_ok_iff_units (length : word.length = 32) {amount : Amount} :
    decodeAmount word = .ok amount ↔ BigEndian.toNat word = amount.units := by
  rw [decodeAmount_eq_ok_iff]
  constructor
  · intro same
    rw [same]
    exact toNat_amountWord amount
  · intro same
    have back := BigEndian.ofNat_toNat word
    rw [length, same] at back
    exact back.symm

theorem decode_of_decodeAmount {failure : Error} (failed : decodeAmount word = .error failure) :
    ∃ message, failure = .decode message := by
  unfold decodeAmount at failed
  split at failed
  · cases failed
    exact ⟨_, rfl⟩
  · split at failed
    · cases failed
    · cases failed
      exact ⟨_, rfl⟩

theorem decodePlace_eq_ok_iff (length : word.length = 32) {place : UInt64} :
    decodePlace word = .ok place ↔ BigEndian.toNat word = place.toNat := by
  unfold decodePlace
  constructor
  · intro read
    split at read
    · cases read
    · next amount found =>
        split at read
        · next small =>
            cases read
            rw [(decodeAmount_eq_ok_iff_units length).mp found]
            exact toUInt64?_eq_some_iff.mp small
        · cases read
  · intro same
    have bounded : place.toNat < 0x100000000000000000000000000000000 :=
      Nat.lt_trans place.toNat_lt (by decide)
    have found : decodeAmount word = .ok ⟨place.toNat, bounded⟩ :=
      (decodeAmount_eq_ok_iff_units length).mpr same
    rw [found]
    dsimp only
    rw [toUInt64?_eq_some_iff.mpr rfl]

theorem decode_of_decodePlace {failure : Error} (failed : decodePlace word = .error failure) :
    ∃ message, failure = .decode message := by
  unfold decodePlace at failed
  split at failed
  · next refused =>
      cases failed
      exact decode_of_decodeAmount refused
  · split at failed
    · cases failed
    · cases failed
      exact ⟨_, rfl⟩

/-! ### Spans -/

namespace Span

variable {start length : UInt64}

theorem of_ofLength? {span : Span bytes} (made : ofLength? bytes start length = some span) :
    start.toNat + length.toNat ≤ bytes.length ∧
      span.stop.toNat = start.toNat + length.toNat ∧
      span.content = (bytes.drop start.toNat).take length.toNat := by
  unfold ofLength? at made
  dsimp only at made
  split at made
  · next within =>
      cases made
      refine ⟨within.2, rfl, ?_⟩
      change (bytes.drop start.toNat).take (start.toNat + length.toNat - start.toNat) = _
      rw [Nat.add_sub_cancel_left]
  · cases made

theorem exists_ofLength? (start length : UInt64) (held : bytes.length < 2 ^ 64)
    (inside : start.toNat + length.toNat ≤ bytes.length) :
    ∃ span, ofLength? bytes start length = some span := by
  have within : start.toNat + length.toNat < UInt64.size ∧
      start.toNat + length.toNat ≤ bytes.length :=
    ⟨Nat.lt_of_le_of_lt inside held, inside⟩
  unfold ofLength?
  dsimp only
  rw [dif_pos within]
  exact ⟨_, rfl⟩

end Span

theorem readText_eq_ok_iff {text : String} :
    readText bytes = .ok text ↔ bytes = Utf8.encode text := by
  rw [← Utf8.decode_eq_ok_iff]
  unfold readText
  cases Utf8.decode bytes with
  | error fault => simp [Except.mapError]
  | ok found => simp [Except.mapError]

theorem decode_of_readText {failure : Error} (failed : readText bytes = .error failure) :
    ∃ message, failure = .decode message := by
  unfold readText at failed
  cases read : Utf8.decode bytes with
  | error fault =>
      rw [read] at failed
      cases failed
      exact ⟨_, rfl⟩
  | ok text =>
      rw [read] at failed
      cases failed

/-- The bytes up to the first zero byte, or all of them when none is zero. -/
structure IsFront (front data : List UInt8) : Prop where
  nonzero : 0 ∉ front
  ends : data = front ∨ ∃ behind, data = front ++ 0 :: behind

/-- The answer points at a place inside it, where the length of a text stands and the bytes of the
text. The places are numbers without bounds, so that no sum of them wraps around. -/
structure HoldsText (place length : Nat) (text : String) (data : List UInt8) : Prop where
  twoWords : 64 ≤ data.length
  atPlace : BigEndian.toNat (data.take 32) = place
  placeFits : place < 2 ^ 64
  lengthInside : place + 32 ≤ data.length
  counted : BigEndian.toNat ((data.drop place).take 32) = length
  lengthFits : length < 2 ^ 64
  textInside : place + 32 + length ≤ data.length
  content : (data.drop (place + 32)).take length = Utf8.encode text

/-- The answer that encodes a text: the place 32, the length in bytes, the bytes and zeros. -/
def textAnswer (text : String) (padding : Nat) (behind : List UInt8) : List UInt8 :=
  BigEndian.ofNat 32 32 ++ (BigEndian.ofNat 32 (Utf8.byteLength text) ++
    (Utf8.encode text ++ (List.replicate padding 0 ++ behind)))

theorem takeWhile_of_isFront {front data : List UInt8} (isFront : IsFront front data) :
    data.takeWhile (· ≠ 0) = front := by
  have all : ∀ byte ∈ front, decide (byte ≠ 0) = true := by
    intro byte member
    refine decide_eq_true fun zero => isFront.nonzero ?_
    rw [← zero]
    exact member
  rcases isFront.ends with whole | ⟨behind, split⟩
  · rw [whole]
    exact List.takeWhile_eq_self_iff.mpr all
  · rw [split, List.takeWhile_append_of_pos all]
    exact List.append_nil front

theorem isFront_takeWhile (data : List UInt8) : IsFront (data.takeWhile (· ≠ 0)) data := by
  constructor
  · intro member
    have nonzero := List.mem_takeWhile_imp member
    exact absurd nonzero (by decide)
  · have split := List.takeWhile_append_dropWhile (p := (· ≠ (0 : UInt8))) (l := data)
    cases rest : data.dropWhile (· ≠ 0) with
    | nil =>
        rw [rest, List.append_nil] at split
        exact .inl split.symm
    | cons byte behind =>
        have zero := List.head?_dropWhile_not (· ≠ (0 : UInt8)) data
        rw [rest] at zero split
        have same : byte = 0 := by simpa using zero
        rw [same] at split
        exact .inr ⟨behind, split.symm⟩

/-! ### Placed texts -/

variable {data : List UInt8} {text : String}

theorem length_wordAt (start : Nat) (inside : start + 32 ≤ data.length) :
    ((data.drop start).take 32).length = 32 := by
  rw [List.length_take, List.length_drop]
  omega

theorem holdsText_of_decodePlacedText (twoWords : 64 ≤ data.length)
    (read : decodePlacedText data = .ok text) :
    ∃ place length, HoldsText place length text data := by
  unfold decodePlacedText at read
  split at read
  · cases read
  · next place found =>
      split at read
      · cases read
      · next lengthWord made =>
          obtain ⟨lengthInside, stop, atPlace⟩ := Span.of_ofLength? made
          split at read
          · cases read
          · next length counted =>
              split at read
              · cases read
              · next span cut =>
                  obtain ⟨textInside, -, content⟩ := Span.of_ofLength? cut
                  have head : (data.take 32).length = 32 := length_wordAt 0 (by omega)
                  rw [atPlace] at counted
                  rw [stop] at textInside content
                  rw [content] at read
                  exact ⟨place.toNat, length.toNat, twoWords,
                    (decodePlace_eq_ok_iff head).mp found, place.toNat_lt, lengthInside,
                    (decodePlace_eq_ok_iff (length_wordAt _ lengthInside)).mp counted,
                    length.toNat_lt, textInside, readText_eq_ok_iff.mp read⟩

theorem decodePlacedText_of_holdsText {place length : Nat} (held : data.length < 2 ^ 64)
    (holds : HoldsText place length text data) : decodePlacedText data = .ok text := by
  obtain ⟨place, rfl⟩ : ∃ word : UInt64, word.toNat = place :=
    ⟨.ofNat place, UInt64.toNat_ofNat_of_lt' holds.placeFits⟩
  obtain ⟨length, rfl⟩ : ∃ word : UInt64, word.toNat = length :=
    ⟨.ofNat length, UInt64.toNat_ofNat_of_lt' holds.lengthFits⟩
  have twoWords := holds.twoWords
  have head : (data.take 32).length = 32 := length_wordAt 0 (by omega)
  have found : decodePlace (data.take 32) = .ok place :=
    (decodePlace_eq_ok_iff head).mpr holds.atPlace
  obtain ⟨lengthWord, made⟩ := Span.exists_ofLength? place 32 held holds.lengthInside
  obtain ⟨-, stop, atPlace⟩ := Span.of_ofLength? made
  have counted : decodePlace lengthWord.content = .ok length := by
    rw [atPlace]
    exact (decodePlace_eq_ok_iff (length_wordAt _ holds.lengthInside)).mpr holds.counted
  obtain ⟨span, cut⟩ := Span.exists_ofLength? lengthWord.stop length held
    (stop ▸ holds.textInside)
  obtain ⟨-, -, content⟩ := Span.of_ofLength? cut
  have read : readText span.content = .ok text := by
    rw [content, stop]
    exact readText_eq_ok_iff.mpr holds.content
  unfold decodePlacedText wordLength
  rw [found]
  dsimp only
  rw [made]
  dsimp only
  rw [counted]
  dsimp only
  rw [cut]
  exact read

theorem decode_of_decodePlacedText {failure : Error}
    (failed : decodePlacedText data = .error failure) : ∃ message, failure = .decode message := by
  unfold decodePlacedText at failed
  split at failed
  · next refused =>
      cases failed
      exact decode_of_decodePlace refused
  · split at failed
    · cases failed
      exact ⟨_, rfl⟩
    · split at failed
      · next refused =>
          cases failed
          exact decode_of_decodePlace refused
      · split at failed
        · cases failed
          exact ⟨_, rfl⟩
        · exact decode_of_readText failed

theorem toNat_smallWord {n : Nat} (small : n < 2 ^ 64) :
    BigEndian.toNat (BigEndian.ofNat 32 n) = n := by
  rw [BigEndian.toNat_ofNat]
  exact Nat.mod_eq_of_lt (Nat.lt_trans small (by decide))

theorem length_textAnswer (text : String) (padding : Nat) (behind : List UInt8) :
    (textAnswer text padding behind).length =
      64 + (Utf8.byteLength text + (padding + behind.length)) := by
  unfold textAnswer
  simp only [List.length_append, BigEndian.length_ofNat, List.length_replicate]
  unfold Utf8.byteLength
  omega

theorem holdsText_textAnswer {padding : Nat} {behind : List UInt8}
    (held : (textAnswer text padding behind).length < 2 ^ 64) :
    HoldsText 32 (Utf8.byteLength text) text (textAnswer text padding behind) := by
  have total := length_textAnswer text padding behind
  have word (n : Nat) : (BigEndian.ofNat 32 n).length = 32 := BigEndian.length_ofNat 32 n
  have behindPlace : (textAnswer text padding behind).drop 32 =
      BigEndian.ofNat 32 (Utf8.byteLength text) ++
        (Utf8.encode text ++ (List.replicate padding 0 ++ behind)) :=
    List.drop_left' (word 32)
  refine ⟨by omega, ?_, by decide, by omega, ?_, by omega, by omega, ?_⟩
  · unfold textAnswer
    rw [List.take_left' (word 32)]
    exact toNat_smallWord (by decide)
  · rw [behindPlace, List.take_left' (word _)]
    exact toNat_smallWord (by omega)
  · rw [← List.drop_drop, behindPlace, List.drop_left' (word _)]
    exact List.take_left' rfl

/-! ### Reading -/

variable {answer : String}

theorem decodeTextAnswer_of_spells (spelled : Hex.SpellsMarked answer.toList data) :
    decodeTextAnswer answer =
      if data.length = 32 then readText (data.takeWhile (· ≠ 0))
      else if data.length < 64 then .error (.decode ("short string result: " ++ answer))
      else decodePlacedText data := by
  unfold decodeTextAnswer
  rw [Hex.readMarked_eq_ok_iff.mpr spelled]
  rfl

theorem decode_of_readMarked {failure : Error} (failed : Hex.readMarked answer = .error failure) :
    ∃ message, failure = .decode message := by
  unfold Hex.readMarked at failed
  cases read : Hex.decodeMarked answer with
  | error fault =>
      rw [read] at failed
      cases failed
      exact ⟨_, rfl⟩
  | ok bytes =>
      rw [read] at failed
      cases failed

theorem decode_of_decodeTextAnswer {failure : Error}
    (failed : decodeTextAnswer answer = .error failure) :
    ∃ message, failure = .decode message := by
  unfold decodeTextAnswer at failed
  split at failed
  · next refused =>
      cases failed
      exact decode_of_readMarked refused
  · split at failed
    · exact decode_of_readText failed
    · split at failed
      · cases failed
        exact ⟨_, rfl⟩
      · exact decode_of_decodePlacedText failed

theorem decodeTextAnswer_of_unread (unread : ∀ text, decodeTextAnswer answer ≠ .ok text) :
    ∃ message, decodeTextAnswer answer = .error (.decode message) := by
  cases read : decodeTextAnswer answer with
  | error failure =>
      obtain ⟨message, rfl⟩ := decode_of_decodeTextAnswer read
      exact ⟨message, rfl⟩
  | ok text => exact absurd read (unread text)

theorem decodeTextAnswer_eq_ok_iff_of_word {front : List UInt8}
    (spelled : Hex.SpellsMarked answer.toList data) (oneWord : data.length = 32)
    (isFront : IsFront front data) :
    decodeTextAnswer answer = .ok text ↔ front = Utf8.encode text := by
  rw [decodeTextAnswer_of_spells spelled, if_pos oneWord, takeWhile_of_isFront isFront]
  exact readText_eq_ok_iff

theorem decodeTextAnswer_eq_ok_iff_holdsText (held : Utf8.FitsMemory answer)
    (spelled : Hex.SpellsMarked answer.toList data) (notOneWord : data.length ≠ 32) :
    decodeTextAnswer answer = .ok text ↔ ∃ place length, HoldsText place length text data := by
  rw [decodeTextAnswer_of_spells spelled, if_neg notOneWord]
  constructor
  · intro read
    split at read
    · cases read
    · next twoWords => exact holdsText_of_decodePlacedText (Nat.le_of_not_lt twoWords) read
  · rintro ⟨place, length, holds⟩
    rw [if_neg (Nat.not_lt_of_le holds.twoWords)]
    exact decodePlacedText_of_holdsText (Hex.length_lt_of_spellsMarked held spelled) holds

theorem decodeAmountAnswer_of_spells (spelled : Hex.SpellsMarked answer.toList data) :
    decodeAmountAnswer answer =
      if data.isEmpty then .ok Amount.zero
      else if data.length < 32 then .error (.decode ("short uint256 result: " ++ answer))
      else decodeAmount (data.take 32) := by
  unfold decodeAmountAnswer
  rw [Hex.readMarked_eq_ok_iff.mpr spelled]
  rfl

theorem decodeAmountAnswer_amountWord {amount : Amount} {behind : List UInt8}
    (spelled : Hex.SpellsMarked answer.toList (amountWord amount ++ behind)) :
    decodeAmountAnswer answer = .ok amount := by
  have length : (amountWord amount).length = 32 := length_amountWord amount
  have whole : (amountWord amount ++ behind).length = 32 + behind.length := by
    rw [List.length_append, length]
  have filled : (amountWord amount ++ behind).isEmpty = false :=
    List.isEmpty_eq_false_iff_exists_mem.mpr
      (List.exists_mem_of_length_pos (by omega))
  rw [decodeAmountAnswer_of_spells spelled, filled, if_neg (by decide), if_neg (by omega),
    List.take_left' length]
  exact decodeAmount_eq_ok_iff.mpr rfl

theorem decodeAmountAnswer_of_short (spelled : Hex.SpellsMarked answer.toList data)
    (some : data ≠ []) (short : data.length < 32) :
    ∃ message, decodeAmountAnswer answer = .error (.decode message) := by
  rw [decodeAmountAnswer_of_spells spelled, if_neg (mt List.isEmpty_iff.mp some), if_pos short]
  exact ⟨_, rfl⟩

theorem decodeAmountAnswer_of_large (spelled : Hex.SpellsMarked answer.toList data)
    (oneWord : 32 ≤ data.length) (large : 2 ^ 128 ≤ BigEndian.toNat (data.take 32)) :
    ∃ message, decodeAmountAnswer answer = .error (.decode message) := by
  have length : (data.take 32).length = 32 := length_wordAt 0 (by omega)
  have filled : data ≠ [] := by
    rintro rfl
    exact absurd oneWord (by decide)
  rw [decodeAmountAnswer_of_spells spelled, if_neg (mt List.isEmpty_iff.mp filled),
    if_neg (Nat.not_lt_of_le oneWord)]
  cases read : decodeAmount (data.take 32) with
  | error failure =>
      obtain ⟨message, rfl⟩ := decode_of_decodeAmount read
      exact ⟨message, rfl⟩
  | ok amount =>
      have bounded := amount.bounded
      rw [(decodeAmount_eq_ok_iff_units length).mp read] at large
      omega

theorem decodeAmountAnswer_of_noHex (noHex : ∀ data, ¬ Hex.SpellsMarked answer.toList data) :
    ∃ message, decodeAmountAnswer answer = .error (.decode message) := by
  unfold decodeAmountAnswer
  cases read : Hex.readMarked answer with
  | error failure =>
      obtain ⟨message, rfl⟩ := decode_of_readMarked read
      exact ⟨message, rfl⟩
  | ok data => exact absurd (Hex.readMarked_eq_ok_iff.mp read) (noHex data)

theorem ne_ok_of_noHex (noHex : ∀ data, ¬ Hex.SpellsMarked answer.toList data) :
    decodeTextAnswer answer ≠ .ok text := by
  intro read
  unfold decodeTextAnswer at read
  cases hex : Hex.readMarked answer with
  | error failure =>
      rw [hex] at read
      cases read
  | ok data => exact noHex data (Hex.readMarked_eq_ok_iff.mp hex)

/-- The encoding of every text is read as that text and never as a single word. A single word is
read up to its first zero byte, where that is text. Any other answer is read exactly when it holds a
text, and all else fails to be decoded. An amount is read from the first word, no bytes are zero,
and less than a word or more than an amount fails to be decoded. -/
theorem answers_read_back :
    (∀ (answer text : String) (padding : Nat) (behind : List UInt8), Utf8.FitsMemory answer →
      Hex.SpellsMarked answer.toList (textAnswer text padding behind) →
      (textAnswer text padding behind).length ≠ 32 ∧ decodeTextAnswer answer = .ok text) ∧
    (∀ (answer : String) (data : List UInt8), Hex.SpellsMarked answer.toList data →
      data.length = 32 →
      ∃ front, IsFront front data ∧
        (∀ text, decodeTextAnswer answer = .ok text ↔ front = Utf8.encode text) ∧
        ((∀ text, front ≠ Utf8.encode text) →
          ∃ message, decodeTextAnswer answer = .error (.decode message))) ∧
    (∀ (answer : String) (data : List UInt8), Utf8.FitsMemory answer →
      Hex.SpellsMarked answer.toList data → data.length ≠ 32 →
      (∀ text, decodeTextAnswer answer = .ok text ↔
        ∃ place length, HoldsText place length text data) ∧
      ((∀ place length text, ¬ HoldsText place length text data) →
        ∃ message, decodeTextAnswer answer = .error (.decode message))) ∧
    (∀ answer : String, (∀ data, ¬ Hex.SpellsMarked answer.toList data) →
      (∃ message, decodeTextAnswer answer = .error (.decode message)) ∧
      ∃ message, decodeAmountAnswer answer = .error (.decode message)) ∧
    ∀ (answer : String) (data : List UInt8), Hex.SpellsMarked answer.toList data →
      (∀ amount behind, data = amountWord amount ++ behind →
        decodeAmountAnswer answer = .ok amount) ∧
      (data = [] → decodeAmountAnswer answer = .ok Amount.zero) ∧
      (data ≠ [] → data.length < 32 →
        ∃ message, decodeAmountAnswer answer = .error (.decode message)) ∧
      (32 ≤ data.length → 2 ^ 128 ≤ BigEndian.toNat (data.take 32) →
        ∃ message, decodeAmountAnswer answer = .error (.decode message)) := by
  refine ⟨?_, ?_, ?_, ?_, ?_⟩
  · intro answer text padding behind held spelled
    have total := length_textAnswer text padding behind
    have notOneWord : (textAnswer text padding behind).length ≠ 32 := by omega
    have holds := holdsText_textAnswer (Hex.length_lt_of_spellsMarked held spelled)
    exact ⟨notOneWord,
      (decodeTextAnswer_eq_ok_iff_holdsText held spelled notOneWord).mpr ⟨_, _, holds⟩⟩
  · intro answer data spelled oneWord
    have isFront := isFront_takeWhile data
    have read (text : String) : decodeTextAnswer answer = .ok text ↔ _ :=
      decodeTextAnswer_eq_ok_iff_of_word spelled oneWord isFront
    exact ⟨_, isFront, read, fun noText =>
      decodeTextAnswer_of_unread fun text found => noText text ((read text).mp found)⟩
  · intro answer data held spelled notOneWord
    have read (text : String) : decodeTextAnswer answer = .ok text ↔ _ :=
      decodeTextAnswer_eq_ok_iff_holdsText held spelled notOneWord
    refine ⟨read, fun noText => decodeTextAnswer_of_unread fun text found => ?_⟩
    obtain ⟨place, length, holds⟩ := (read text).mp found
    exact noText place length text holds
  · intro answer noHex
    exact ⟨decodeTextAnswer_of_unread fun text => ne_ok_of_noHex noHex,
      decodeAmountAnswer_of_noHex noHex⟩
  · intro answer data spelled
    refine ⟨?_, ?_, decodeAmountAnswer_of_short spelled, decodeAmountAnswer_of_large spelled⟩
    · intro amount behind same
      exact decodeAmountAnswer_amountWord (same ▸ spelled)
    · intro nothing
      rw [decodeAmountAnswer_of_spells spelled, nothing]
      rfl

/-! An answer of each kind: a text, a word of text, a place that only its last 64 bits make one, no
hexadecimal text, and amounts that fit and do not. -/

def wordAnswer : List UInt8 :=
  Utf8.encode "MKR" ++ List.replicate 29 0

def wrappedAnswer : List UInt8 :=
  BigEndian.ofNat 32 (2 ^ 64 + 32) ++ BigEndian.ofNat 32 4 ++ Utf8.encode "USDT"

theorem answers_read_back_usdt :
    decodeTextAnswer (Hex.encode (textAnswer "USDT" 28 [0xff])) = .ok "USDT" ∧
      decodeTextAnswer (Hex.encode (textAnswer "" 0 [])) = .ok "" ∧
      decodeTextAnswer (Hex.encode wordAnswer) = .ok "MKR" ∧
      (∃ message, decodeTextAnswer (Hex.encode wrappedAnswer) = .error (.decode message)) ∧
      (∃ message, decodeTextAnswer "0x0" = .error (.decode message)) ∧
      decodeAmountAnswer (Hex.encode (amountWord million ++ [0xff])) = .ok million ∧
      decodeAmountAnswer "0x" = .ok Amount.zero ∧
      (∃ message, decodeAmountAnswer "0x01" = .error (.decode message)) ∧
      ∃ message, decodeAmountAnswer (Hex.encode (List.replicate 32 0xff)) =
        .error (.decode message) := by
  have plain (data : List UInt8) : Hex.SpellsMarked (Hex.encode data).toList data :=
    ⟨0, (Hex.encode data).toList, rfl, Hex.decode_eq_ok_iff.mp (Hex.decode_encode data)⟩
  have held (data : List UInt8) (short : data.length < 2 ^ 63) :
      Utf8.FitsMemory (Hex.encode data) := by
    unfold Utf8.FitsMemory
    rw [Hex.byteLength_encode]
    omega
  have wrapped (place length : Nat) (text : String) :
      ¬ HoldsText place length text wrappedAnswer := by
    intro holds
    have large : 2 ^ 64 ≤ BigEndian.toNat (wrappedAnswer.take 32) := by decide +kernel
    exact absurd holds.placeFits (Nat.not_lt_of_le (holds.atPlace ▸ large))
  have noHex (data : List UInt8) : ¬ Hex.SpellsMarked "0x0".toList data := by
    intro spelled
    have read := Hex.readMarked_eq_ok_iff.mpr spelled
    have refused : (Hex.readMarked "0x0").toOption = none := by decide +kernel
    rw [read] at refused
    cases refused
  have marked : Hex.SpellsMarked "0x".toList [] := ⟨1, [], rfl, rfl⟩
  have single : Hex.SpellsMarked "0x01".toList [1] := ⟨1, ['0', '1'], rfl, by
    unfold Hex.Spells
    decide +kernel⟩
  obtain ⟨texts, words, others, unspelled, amounts⟩ := answers_read_back
  obtain ⟨-, usdt⟩ := texts _ "USDT" 28 [0xff] (held _ (by decide +kernel)) (plain _)
  obtain ⟨-, empty⟩ := texts _ "" 0 [] (held _ (by decide +kernel)) (plain _)
  obtain ⟨front, isFront, word, -⟩ := words _ wordAnswer (plain _) (by decide +kernel)
  have maker : front = Utf8.encode "MKR" := by
    rw [← takeWhile_of_isFront isFront]
    decide +kernel
  obtain ⟨-, other⟩ := others _ wrappedAnswer (held _ (by decide +kernel)) (plain _)
    (by decide +kernel)
  obtain ⟨amount, -, -, -⟩ := amounts _ _ (plain (amountWord million ++ [0xff]))
  obtain ⟨-, nothing, -, -⟩ := amounts _ _ marked
  obtain ⟨-, -, short, -⟩ := amounts _ _ single
  obtain ⟨-, -, -, large⟩ := amounts _ _ (plain (List.replicate 32 0xff))
  exact ⟨usdt, empty, (word "MKR").mpr maker, other wrapped, (unspelled _ noHex).1,
    amount million [0xff] rfl, nothing rfl, short (by decide) (by decide),
    large (by decide +kernel) (by decide +kernel)⟩

end Abi
end TronGateway
