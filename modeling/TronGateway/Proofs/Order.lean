import Mathlib.Data.List.Basic
import TronGateway.Order
import TronGateway.Proofs.Asset
import TronGateway.Proofs.Number.Amount
import TronGateway.Proofs.Number.Decimal
import TronGateway.Proofs.PaymentRecord
import TronGateway.Proofs.Text.Hex
set_option autoImplicit false

/-!
# What a fingerprint tells

Orders with one fingerprint have one summary, unless their summaries are a collision of SHA-256. A
summary puts bars between the parts of an order and does not mark the bars inside of them, so two
orders can share it. Where no part but the memo holds a bar and no asset a comma, the summary tells
every part.
-/

namespace TronGateway

/-- Parts without the separator end where it first stands. -/
theorem append_separator_inj {separator : Char} {first second before after : List Char}
    (free : separator ∉ first) (also : separator ∉ second)
    (same : first ++ separator :: before = second ++ separator :: after) :
    first = second ∧ before = after := by
  induction first generalizing second with
  | nil =>
      cases second with
      | nil => exact ⟨rfl, List.tail_eq_of_cons_eq same⟩
      | cons other rest =>
          rw [← List.head_eq_of_cons_eq same] at also
          exact absurd List.mem_cons_self also
  | cons c rest ih =>
      cases second with
      | nil =>
          rw [List.head_eq_of_cons_eq same] at free
          exact absurd List.mem_cons_self free
      | cons other others =>
          obtain ⟨front, back⟩ := ih (List.not_mem_of_not_mem_cons free)
            (List.not_mem_of_not_mem_cons also) (List.tail_eq_of_cons_eq same)
          rw [List.head_eq_of_cons_eq same, front]
          exact ⟨rfl, back⟩

theorem append_separator_inj_last {separator : Char} {first second before after : List Char}
    (free : separator ∉ before) (also : separator ∉ after)
    (same : first ++ separator :: before = second ++ separator :: after) :
    first = second ∧ before = after := by
  have reversed := congrArg List.reverse same
  simp only [List.reverse_append, List.reverse_cons, List.append_assoc, List.singleton_append]
    at reversed
  obtain ⟨back, front⟩ :=
    append_separator_inj (by rwa [List.mem_reverse]) (by rwa [List.mem_reverse]) reversed
  exact ⟨List.reverse_inj.mp front, List.reverse_inj.mp back⟩

/-- The asset can be told from its text, and its text from those around it. -/
structure Asset.Plain (asset : Asset) : Prop where
  point : '.' ∉ asset.chain.toList
  comma : ',' ∉ asset.toText.toList
  bar : '|' ∉ asset.toText.toList

theorem Asset.toText_inj {first second : Asset} (plain : first.Plain) (also : second.Plain)
    (same : first.toText.toList = second.toText.toList) : first = second := by
  rw [toList_toText, toList_toText] at same
  obtain ⟨chain, symbol⟩ := append_separator_inj plain.point also.point same
  rcases first with ⟨firstChain, firstSymbol⟩
  rcases second with ⟨secondChain, secondSymbol⟩
  cases String.toList_inj.mp chain
  cases String.toList_inj.mp symbol
  rfl

namespace Coin

theorem toList_toText (coin : Coin) :
    coin.toText.toList =
      Decimal.natChars coin.amount.units ++ ' ' :: coin.asset.toText.toList := by
  unfold toText Amount.toText Decimal.ofNat
  rw [String.toList_append, String.toList_append, String.toList_ofList, List.append_assoc]
  rfl

theorem toText_ne_nil (coin : Coin) : coin.toText.toList ≠ [] := by
  rw [toList_toText]
  exact List.append_ne_nil_of_left_ne_nil (Decimal.natChars_ne_nil _) _

theorem notMem_toText {c : Char} (noDigit : ¬ ('0' ≤ c ∧ c ≤ '9')) (noBlank : c ≠ ' ') {coin : Coin}
    (free : c ∉ coin.asset.toText.toList) : c ∉ coin.toText.toList := by
  rw [toList_toText, List.mem_append, List.mem_cons]
  rintro (digit | blank | asset)
  · exact Decimal.notMem_natChars noDigit _ digit
  · exact noBlank blank
  · exact free asset

theorem toText_inj {first second : Coin} (plain : first.asset.Plain) (also : second.asset.Plain)
    (same : first.toText.toList = second.toText.toList) :
    first.amount = second.amount ∧ first.asset = second.asset := by
  rw [toList_toText, toList_toText] at same
  have noDigit : ¬ ('0' ≤ ' ' ∧ ' ' ≤ '9') := by decide
  obtain ⟨amount, asset⟩ := append_separator_inj (Decimal.notMem_natChars noDigit _)
    (Decimal.notMem_natChars noDigit _) same
  exact ⟨Amount.eq_of_units (Decimal.natChars_injective amount),
    Asset.toText_inj plain also asset⟩

def listChars (coins : List Coin) : List Char :=
  [',', ' '].intercalate (coins.map fun coin => coin.toText.toList)

theorem toList_listText (coins : List Coin) : (listText coins).toList = listChars coins := by
  unfold listText listChars
  rw [String.toList_intercalate, List.map_map]
  rfl

theorem listChars_cons_cons (first second : Coin) (rest : List Coin) :
    listChars (first :: second :: rest) =
      first.toText.toList ++ ',' :: ' ' :: listChars (second :: rest) := by
  simp [listChars, List.intercalate]

theorem notMem_listChars {c : Char} (noDigit : ¬ ('0' ≤ c ∧ c ≤ '9')) (noBlank : c ≠ ' ')
    (noComma : c ≠ ',') {coins : List Coin}
    (free : ∀ coin ∈ coins, c ∉ coin.asset.toText.toList) : c ∉ listChars coins := by
  induction coins with
  | nil => exact List.not_mem_nil
  | cons coin rest ih =>
      obtain ⟨freeCoin, freeRest⟩ := List.forall_mem_cons.mp free
      have own := notMem_toText noDigit noBlank freeCoin
      cases rest with
      | nil => simpa [listChars, List.intercalate] using own
      | cons next rest =>
          have others := ih freeRest
          rw [listChars_cons_cons]
          simp [own, others, noComma, noBlank]

theorem listChars_singleton (coin : Coin) : listChars [coin] = coin.toText.toList := by
  simp [listChars, List.intercalate]

theorem listChars_cons_ne_nil (coin : Coin) (rest : List Coin) : listChars (coin :: rest) ≠ [] := by
  cases rest with
  | nil =>
      rw [listChars_singleton]
      exact coin.toText_ne_nil
  | cons next rest =>
      rw [listChars_cons_cons]
      exact List.append_ne_nil_of_left_ne_nil coin.toText_ne_nil _

theorem listChars_inj {first second : List Coin} (plain : ∀ coin ∈ first, coin.asset.Plain)
    (also : ∀ coin ∈ second, coin.asset.Plain) (same : listChars first = listChars second) :
    first.map (fun coin => (coin.amount, coin.asset)) =
      second.map fun coin => (coin.amount, coin.asset) := by
  have free {coin : Coin} (known : coin.asset.Plain) : ',' ∉ coin.toText.toList :=
    notMem_toText (by decide) (by decide) known.comma
  have pair {coin other : Coin} (known : coin.asset.Plain) (told : other.asset.Plain)
      (text : coin.toText.toList = other.toText.toList) :
      (coin.amount, coin.asset) = (other.amount, other.asset) := by
    obtain ⟨amount, asset⟩ := toText_inj known told text
    rw [amount, asset]
  induction first generalizing second with
  | nil =>
      cases second with
      | nil => rfl
      | cons other others => exact absurd same.symm (listChars_cons_ne_nil other others)
  | cons coin rest ih =>
      obtain ⟨known, plainRest⟩ := List.forall_mem_cons.mp plain
      cases second with
      | nil => exact absurd same (listChars_cons_ne_nil coin rest)
      | cons other others =>
          obtain ⟨told, plainOthers⟩ := List.forall_mem_cons.mp also
          -- A comma stands behind the first coin exactly when there are further ones.
          cases rest with
          | nil =>
              cases others with
              | nil =>
                  rw [listChars_singleton, listChars_singleton] at same
                  rw [List.map_singleton, List.map_singleton, pair known told same]
              | cons next others =>
                  rw [listChars_singleton, listChars_cons_cons] at same
                  exact absurd (same ▸ List.mem_append_right _ List.mem_cons_self) (free known)
          | cons next rest =>
              cases others with
              | nil =>
                  rw [listChars_singleton, listChars_cons_cons] at same
                  exact absurd (same ▸ List.mem_append_right _ List.mem_cons_self) (free told)
              | cons following others =>
                  rw [listChars_cons_cons, listChars_cons_cons] at same
                  obtain ⟨text, behind⟩ := append_separator_inj (free known) (free told) same
                  exact congrArg₂ List.cons (pair known told text)
                    (ih plainRest plainOthers (List.tail_eq_of_cons_eq behind))

end Coin

/-! ### Orders -/

namespace Order

/-- No part but the memo holds a bar, and the assets can be told from their texts. -/
structure Plain (order : Order) : Prop where
  chain : '|' ∉ order.chain.toList
  recipient : '|' ∉ order.recipient.toList
  vault : '|' ∉ order.vault.toList
  coins : ∀ coin ∈ order.coins, coin.asset.Plain
  inHash : '|' ∉ order.inHash.toList

/-- The orders agree in every part that a fingerprint is made of. -/
structure Agrees (first second : Order) : Prop where
  chain : first.chain = second.chain
  recipient : first.recipient = second.recipient
  vault : first.vault = second.vault
  coins : first.coins.map (fun coin => (coin.amount, coin.asset)) =
    second.coins.map fun coin => (coin.amount, coin.asset)
  memo : first.memo = second.memo
  inHash : first.inHash = second.inHash

theorem toList_summary (order : Order) :
    order.summary.toList = order.chain.toList ++ '|' :: (order.recipient.toList ++ '|' ::
      (order.vault.toList ++ '|' :: (Coin.listChars order.coins ++ '|' ::
        (order.memo.toList ++ '|' :: order.inHash.toList)))) := by
  unfold summary
  rw [String.toList_intercalate]
  simp [List.intercalate, Coin.toList_listText]

theorem agrees_of_summary {first second : Order} (plain : first.Plain) (also : second.Plain)
    (same : first.summary = second.summary) : first.Agrees second := by
  have bare {order : Order} (known : order.Plain) : '|' ∉ Coin.listChars order.coins :=
    Coin.notMem_listChars (by decide) (by decide) (by decide)
      fun coin member => (known.coins coin member).bar
  have chars := congrArg String.toList same
  rw [toList_summary, toList_summary] at chars
  obtain ⟨chain, chars⟩ := append_separator_inj plain.chain also.chain chars
  obtain ⟨recipient, chars⟩ := append_separator_inj plain.recipient also.recipient chars
  obtain ⟨vault, chars⟩ := append_separator_inj plain.vault also.vault chars
  obtain ⟨coins, chars⟩ := append_separator_inj (bare plain) (bare also) chars
  -- The memo may hold bars, so the last part is cut off at the last bar.
  obtain ⟨memo, inHash⟩ := append_separator_inj_last plain.inHash also.inHash chars
  exact ⟨String.toList_inj.mp chain, String.toList_inj.mp recipient, String.toList_inj.mp vault,
    Coin.listChars_inj plain.coins also.coins coins, String.toList_inj.mp memo,
    String.toList_inj.mp inHash⟩

theorem summary_eq_of_agrees {first second : Order} (agrees : first.Agrees second) :
    first.summary = second.summary := by
  have text (coins : List Coin) : Coin.listText coins = ", ".intercalate
      ((coins.map fun coin => (coin.amount, coin.asset)).map fun part =>
        part.1.toText ++ " " ++ part.2.toText) := by
    unfold Coin.listText
    rw [List.map_map]
    rfl
  unfold summary
  rw [text, text, agrees.chain, agrees.recipient, agrees.vault, agrees.coins, agrees.memo,
    agrees.inHash]

def Collide (first second : List UInt8) : Prop :=
  first ≠ second ∧ Sha256.digest first = Sha256.digest second

theorem sha256Hex_eq_iff {first second : List UInt8} :
    sha256Hex first = sha256Hex second ↔ first = second ∨ Collide first second := by
  unfold sha256Hex Collide
  constructor
  · intro same
    by_cases equal : first = second
    · exact .inl equal
    · exact .inr ⟨equal, Hex.encode_inj.mp same⟩
  · rintro (rfl | ⟨-, digests⟩)
    · rfl
    · rw [digests]

theorem fingerprint_eq_iff {first second : Order} :
    first.fingerprint = second.fingerprint ↔
      first.summary = second.summary ∨
        Collide (Utf8.encode first.summary) (Utf8.encode second.summary) := by
  have injective : Utf8.encode first.summary = Utf8.encode second.summary ↔
      first.summary = second.summary := by
    refine ⟨fun same => ?_, congrArg Utf8.encode⟩
    have texts := congrArg Utf8.decode same
    rw [Utf8.decode_encode, Utf8.decode_encode] at texts
    exact Except.ok.inj texts
  unfold fingerprint
  rw [sha256Hex_eq_iff, injective]

/-- Orders have one fingerprint exactly when they agree in all parts of it or their summaries
collide, if no part but the memo holds a bar and the assets can be told from their texts. -/
theorem fingerprint_eq_iff_agrees {first second : Order} (plain : first.Plain)
    (also : second.Plain) :
    first.fingerprint = second.fingerprint ↔
      first.Agrees second ∨
        Collide (Utf8.encode first.summary) (Utf8.encode second.summary) := by
  rw [fingerprint_eq_iff]
  exact or_congr_left ⟨agrees_of_summary plain also, summary_eq_of_agrees⟩

def barInMemo : Order where
  chain := chainName
  recipient := "A"
  vault := "V"
  coins := []
  memo := "OUT:A|B"
  maxGas := []
  gasRate := 0
  inHash := "C"
  height := 0

def barInHash : Order := { barInMemo with memo := "OUT:A", inHash := "B|C" }

/-- A bar in the memo does no harm where the other parts hold none. -/
theorem fingerprint_barInMemo_eq_iff :
    barInMemo.Plain ∧ { barInMemo with memo := "OUT:A|C" }.Plain ∧
      (barInMemo.fingerprint = { barInMemo with memo := "OUT:A|C" }.fingerprint ↔
        barInMemo.Agrees { barInMemo with memo := "OUT:A|C" } ∨
          Collide (Utf8.encode barInMemo.summary)
            (Utf8.encode { barInMemo with memo := "OUT:A|C" }.summary)) := by
  have plain : barInMemo.Plain :=
    ⟨by decide, by decide, by decide, List.forall_mem_nil _, by decide⟩
  have also : { barInMemo with memo := "OUT:A|C" }.Plain :=
    ⟨by decide, by decide, by decide, List.forall_mem_nil _, by decide⟩
  exact ⟨plain, also, fingerprint_eq_iff_agrees plain also⟩

/-- Two orders with different memos share a fingerprint, and once the first is recorded as paid the
second counts as paid. -/
theorem barInHash_counts_as_paid :
    barInHash.memo ≠ barInMemo.memo ∧ barInHash.inHash ≠ barInMemo.inHash ∧
      barInHash.fingerprint = barInMemo.fingerprint ∧
      ((PaymentRecord.isPaid barInHash.fingerprint).run.run Store.serve Store.empty).1 =
        .finished (.ok false) ∧
      ((PaymentRecord.isPaid barInHash.fingerprint).run.run Store.serve
        ((PaymentRecord.record barInMemo.fingerprint barInMemo.vault "t1").run Store.serve
          Store.empty).2).1 = .finished (.ok true) := by
  have summary : barInHash.summary = barInMemo.summary := by decide
  have same : barInHash.fingerprint = barInMemo.fingerprint :=
    fingerprint_eq_iff.mpr (.inl summary)
  refine ⟨by decide, by decide, same, rfl, ?_⟩
  rw [PaymentRecord.run_isPaid, PaymentRecord.isPaid_after_record, same]
  simp

end Order
end TronGateway
