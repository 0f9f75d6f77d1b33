import TronGateway.Proofs.Asset
set_option autoImplicit false

/-!
# Reading back assets

The text of an asset is read as that asset again, however the asset was made, and so is every text
that differs from it in the case of ASCII letters alone. So a text that names a listed token in any
case finds a token of that asset.
-/

namespace TronGateway

namespace Text

variable {left right : String}

theorem sameIgnoringAsciiCase_iff :
    sameIgnoringAsciiCase left right = true ↔
      left.toList.map Char.toLower = right.toList.map Char.toLower :=
  beq_iff_eq

theorem toLower_eq_point_iff {c : Char} : c.toLower = '.' ↔ c = '.' := by
  constructor
  · intro lower
    have form : upperChar '.' = upperChar c := by rw [← lower, upperChar_toLower]
    have member : '.' ∈ upperChar c := by
      rw [← form]
      decide
    exact (upperChar_of_mem member).2 rfl
  · rintro rfl
    rfl

theorem point_mem_map_toLower_iff {chars : List Char} :
    '.' ∈ chars.map Char.toLower ↔ '.' ∈ chars := by
  rw [List.mem_map]
  constructor
  · rintro ⟨c, member, lower⟩
    rwa [toLower_eq_point_iff.mp lower] at member
  · intro member
    exact ⟨'.', member, rfl⟩

end Text

namespace Asset

theorem splitAtPoint_eq_some_iff {chars front behind : List Char} :
    splitAtPoint chars = some (front, behind) ↔
      '.' ∉ front ∧ chars = front ++ '.' :: behind := by
  induction chars generalizing front with
  | nil =>
      rw [splitAtPoint]
      constructor
      · intro none
        cases none
      · rintro ⟨-, split⟩
        exact absurd split.symm (List.append_ne_nil_of_right_ne_nil _ (List.cons_ne_nil _ _))
  | cons c rest ih =>
      rw [splitAtPoint]
      by_cases point : c = '.'
      · rw [if_pos point, point]
        constructor
        · intro same
          cases same
          exact ⟨List.not_mem_nil, rfl⟩
        · rintro ⟨noPoint, split⟩
          cases front with
          | nil =>
              cases split
              rfl
          | cons first others =>
              cases split
              exact absurd List.mem_cons_self noPoint
      · rw [if_neg point, Option.map_eq_some_iff]
        constructor
        · rintro ⟨⟨before, after⟩, found, same⟩
          cases same
          obtain ⟨noPoint, split⟩ := ih.mp found
          refine ⟨?_, ?_⟩
          · rw [List.mem_cons, not_or]
            exact ⟨Ne.symm point, noPoint⟩
          · rw [split]
            rfl
        · rintro ⟨noPoint, split⟩
          cases front with
          | nil =>
              cases split
              exact absurd rfl point
          | cons first others =>
              cases split
              exact ⟨(others, behind),
                ih.mpr ⟨fun member => noPoint (List.mem_cons_of_mem _ member), rfl⟩, rfl⟩

theorem parse_eq_ok_iff {text : String} {asset : Asset} :
    parse text = .ok asset ↔ ∃ chain symbol, '.' ∉ chain ∧ chain ≠ [] ∧ symbol ≠ [] ∧
      text.toList = chain ++ '.' :: symbol ∧
      asset = ⟨Text.uppercase (String.ofList chain), Text.uppercase (String.ofList symbol)⟩ := by
  unfold parse
  constructor
  · intro parsed
    split at parsed
    · cases parsed
    · next chain symbol found =>
        split at parsed
        · cases parsed
        · next filled =>
            cases parsed
            obtain ⟨noPoint, split⟩ := splitAtPoint_eq_some_iff.mp found
            rw [Bool.or_eq_true, List.isEmpty_iff, List.isEmpty_iff, not_or] at filled
            exact ⟨chain, symbol, noPoint, filled.1, filled.2, split, rfl⟩
  · rintro ⟨chain, symbol, noPoint, chainFilled, symbolFilled, split, rfl⟩
    have filled : ¬ (chain.isEmpty || symbol.isEmpty) = true := by
      rw [Bool.or_eq_true, List.isEmpty_iff, List.isEmpty_iff, not_or]
      exact ⟨chainFilled, symbolFilled⟩
    rw [splitAtPoint_eq_some_iff.mpr ⟨noPoint, split⟩]
    exact if_neg filled

/-! ### Reading back -/

/-- The assets that are read or made of names: TRX and every token. -/
inductive IsMade : Asset → Prop where
  | read {text : String} {asset : Asset} (parsed : parse text = .ok asset) : IsMade asset
  | trx : IsMade trx
  | token (ticker contract : String) : IsMade (token ticker contract)

/-- The chain and the symbol are not empty and in capital letters, and the chain has no point. -/
structure IsCapital (asset : Asset) : Prop where
  chainFilled : asset.chain.toList ≠ []
  symbolFilled : asset.symbol.toList ≠ []
  noPoint : '.' ∉ asset.chain.toList
  chainCapital : Text.uppercase asset.chain = asset.chain
  symbolCapital : Text.uppercase asset.symbol = asset.symbol

theorem toList_uppercase (text : String) :
    (Text.uppercase text).toList = text.toList.flatMap Text.upperChar :=
  String.toList_ofList

theorem toList_uppercase_eq_nil_iff {text : String} :
    (Text.uppercase text).toList = [] ↔ text.toList = [] := by
  rw [toList_uppercase]
  exact Text.flatMap_upperChar_eq_nil_iff

theorem chainName_capital : chainName.toList ≠ [] ∧ '.' ∉ chainName.toList ∧
    Text.uppercase chainName = chainName := by
  decide

theorem isCapital_of_isMade {asset : Asset} (made : IsMade asset) : IsCapital asset := by
  cases made with
  | read parsed =>
      obtain ⟨chain, symbol, noPoint, chainFilled, symbolFilled, -, rfl⟩ :=
        parse_eq_ok_iff.mp parsed
      refine ⟨?_, ?_, ?_, Text.uppercase_uppercase _, Text.uppercase_uppercase _⟩
      · rw [Ne, toList_uppercase_eq_nil_iff, String.toList_ofList]
        exact chainFilled
      · rw [Ne, toList_uppercase_eq_nil_iff, String.toList_ofList]
        exact symbolFilled
      · rw [toList_uppercase, Text.point_mem_flatMap_upperChar_iff, String.toList_ofList]
        exact noPoint
  | trx =>
      obtain ⟨filled, noPoint, capital⟩ := chainName_capital
      exact ⟨filled, by decide, noPoint, capital, by decide⟩
  | token ticker contract =>
      obtain ⟨filled, noPoint, capital⟩ := chainName_capital
      refine ⟨filled, ?_, noPoint, capital, Text.uppercase_uppercase _⟩
      unfold token
      rw [Ne, toList_uppercase_eq_nil_iff, String.toList_append, String.toList_append]
      simp

theorem parse_toText {asset : Asset} (made : IsMade asset) : parse asset.toText = .ok asset := by
  have capital := isCapital_of_isMade made
  refine parse_eq_ok_iff.mpr ⟨asset.chain.toList, asset.symbol.toList, capital.noPoint,
    capital.chainFilled, capital.symbolFilled, toList_toText asset, ?_⟩
  rw [String.ofList_toList, String.ofList_toList, capital.chainCapital, capital.symbolCapital]

theorem parse_of_sameIgnoringAsciiCase {text other : String} {asset : Asset}
    (same : Text.sameIgnoringAsciiCase text other = true) (parsed : parse other = .ok asset) :
    parse text = .ok asset := by
  obtain ⟨chain, symbol, noPoint, chainFilled, symbolFilled, split, rfl⟩ :=
    parse_eq_ok_iff.mp parsed
  have lower := Text.sameIgnoringAsciiCase_iff.mp same
  rw [split, List.map_append, List.map_cons] at lower
  obtain ⟨front, behind, whole, lowerFront, lowerBehind⟩ := List.map_eq_append_iff.mp lower
  obtain ⟨point, rest, rfl, isPoint, lowerRest⟩ := List.map_eq_cons_iff.mp lowerBehind
  have thePoint : point = '.' := Text.toLower_eq_point_iff.mp isPoint
  have upper {left right : List Char} (equal : left.map Char.toLower = right.map Char.toLower) :
      Text.uppercase (String.ofList left) = Text.uppercase (String.ofList right) := by
    unfold Text.uppercase
    rw [String.toList_ofList, String.toList_ofList, Text.flatMap_upperChar_of_lower equal]
  refine parse_eq_ok_iff.mpr ⟨front, rest, ?_, ?_, ?_, thePoint ▸ whole, ?_⟩
  · rw [← Text.point_mem_map_toLower_iff, lowerFront, Text.point_mem_map_toLower_iff]
    exact noPoint
  · rintro rfl
    exact chainFilled (List.map_eq_nil_iff.mp lowerFront.symm)
  · rintro rfl
    exact symbolFilled (List.map_eq_nil_iff.mp lowerRest.symm)
  · rw [upper lowerFront, upper lowerRest]

end Asset

namespace Token

variable {tokens : List Token} {token : Token}

/-- The name of a token as it is listed: its chain, its ticker and its contract. -/
def name (token : Token) : String :=
  chainName ++ "." ++ (token.symbol ++ "-" ++ token.contract)

theorem parse_name (token : Token) : Asset.parse token.name = .ok token.asset := by
  obtain ⟨filled, noPoint, capital⟩ := Asset.chainName_capital
  refine Asset.parse_eq_ok_iff.mpr ⟨chainName.toList,
    (token.symbol ++ "-" ++ token.contract).toList, noPoint, filled, ?_, ?_, ?_⟩
  · rw [String.toList_append, String.toList_append]
    simp
  · unfold name
    rw [String.toList_append, String.toList_append, List.append_assoc]
    rfl
  · rw [String.ofList_toList, String.ofList_toList, capital]
    rfl

theorem isMade_asset (token : Token) : token.asset.IsMade :=
  .token token.symbol token.contract

theorem exists_findByAsset? (member : token ∈ tokens) :
    ∃ found ∈ tokens, findByAsset? tokens token.asset = some found ∧
      found.asset = token.asset := by
  have some : (findByAsset? tokens token.asset).isSome = true :=
    List.find?_isSome.mpr ⟨token, member, decide_eq_true rfl⟩
  obtain ⟨found, listed⟩ := Option.isSome_iff_exists.mp some
  obtain ⟨inside, same⟩ := mem_of_findByAsset? listed
  exact ⟨found, inside, listed, same⟩

theorem findByAsset?_of_nodup (distinct : (tokens.map asset).Nodup) (member : token ∈ tokens) :
    findByAsset? tokens token.asset = some token := by
  obtain ⟨found, inside, listed, same⟩ := exists_findByAsset? member
  rw [listed, List.inj_on_of_nodup_map distinct inside member same]

end Token
end TronGateway
