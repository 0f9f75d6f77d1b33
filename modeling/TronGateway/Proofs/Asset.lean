import TronGateway.Proofs.Text.Uppercase
import TronGateway.Proofs.Whitelist
set_option autoImplicit false

/-!
# Assets of tokens

The symbol of a token ends in its contract, in capital letters. So tokens whose contracts are not
the same when the case of letters does not count have different assets, and none of them is TRX.
-/

namespace TronGateway

namespace Asset

theorem toList_toText (asset : Asset) :
    asset.toText.toList = asset.chain.toList ++ '.' :: asset.symbol.toList := by
  unfold toText
  rw [String.toList_append, String.toList_append, List.append_assoc]
  rfl

theorem symbol_token {ticker contract : String}
    (ascii : ∀ c ∈ contract.toList, c.toNat < 0x80) :
    (token ticker contract).symbol.toList =
      ticker.toList.flatMap Text.upperChar ++ '-' :: contract.toList.map Char.toUpper := by
  unfold token Text.uppercase
  rw [String.toList_ofList, String.toList_append, String.toList_append, List.flatMap_append,
    List.flatMap_append, Text.flatMap_upperChar ascii, List.append_assoc]
  rfl

theorem sameIgnoringAsciiCase_of_token {ticker other contract sought : String}
    (ascii : ∀ c ∈ contract.toList, c.toNat < 0x80)
    (asciiSought : ∀ c ∈ sought.toList, c.toNat < 0x80)
    (length : contract.length = sought.length)
    (same : token ticker contract = token other sought) :
    Text.sameIgnoringAsciiCase contract sought = true := by
  have symbols := congrArg (fun asset => asset.symbol.toList) same
  rw [symbol_token ascii, symbol_token asciiSought] at symbols
  have long : contract.toList.length = sought.toList.length := by
    rw [String.length_toList, String.length_toList, length]
  have ends := List.append_inj_right' symbols (by simp [long])
  have capitals := congrArg (List.map Char.toLower) (List.cons.inj ends).2
  rw [Text.map_toLower_toUpper ascii, Text.map_toLower_toUpper asciiSought] at capitals
  exact beq_iff_eq.mpr capitals

theorem token_ne_trx (ticker contract : String) : token ticker contract ≠ trx := by
  intro same
  have dash : '-' ∈ (token ticker contract).symbol.toList := by
    unfold token Text.uppercase
    rw [String.toList_ofList, String.toList_append, String.toList_append]
    apply List.mem_flatMap.mpr
    exact ⟨'-', by simp, by decide⟩
  rw [same] at dash
  exact absurd dash (by decide)

end Asset

namespace Token

/-- Contracts in base58 have letters of ASCII only, and all have the same length. So the symbols of
distinct ones differ behind the mark. -/
theorem AreDistinct.nodup_asset {tokens : List Token} (distinct : AreDistinct tokens)
    (spelled : ∀ token ∈ tokens, Address.toBase58 token.contract = .ok token.contract) :
    (tokens.map asset).Nodup := by
  rw [List.nodup_iff_pairwise_ne, List.pairwise_map]
  refine List.Pairwise.imp_of_mem ?_ distinct
  intro token other member memberOther different same
  obtain ⟨ascii, length⟩ := Address.ascii_of_toBase58 (spelled token member)
  obtain ⟨asciiOther, lengthOther⟩ := Address.ascii_of_toBase58 (spelled other memberOther)
  rw [Asset.sameIgnoringAsciiCase_of_token ascii asciiOther (length.trans lengthOther.symm) same]
    at different
  cases different

end Token
end TronGateway
