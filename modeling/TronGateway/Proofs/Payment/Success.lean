import TronGateway.Payment
import TronGateway.Proofs.Abi
import TronGateway.Proofs.Action
import TronGateway.Proofs.Transaction.Rehash
set_option autoImplicit false

/-!
# Calls that sign successfully

When every part of signing succeeds, the call returns the signed transaction. What the parts need is
said for each of them.
-/

namespace TronGateway.Payment

variable {State : Type}
  {answer : (question : Question) → State → Option question.Answer × State}
  {payer : Payer} {order : Order} {state between after : State}

theorem verify_eq_ok {hash signature : List UInt8} {vault : String} {key : Curve.PublicKey}
    (parsed : KeyText.parse vault = .ok key)
    (recovered : Signer.recover hash signature = .ok key) :
    Signer.verify hash signature vault = .ok () := by
  unfold Signer.verify
  rw [parsed, recovered]
  exact if_pos rfl

theorem gives_buildTokenTransfer {tokens : List Token} {token : Token} {coin : Coin}
    {owner : String} {account : List UInt8} {gas : Amount} {limit : UInt64} {shell : Transaction}
    (listed : Token.findByAsset? tokens coin.asset = some token) (length : account.length = 20)
    (summed : Coin.total order.maxGas Asset.trx = .ok gas)
    (limited : payable gas.toSun "max gas out of range" = .ok limit)
    (answered : answer (.node (.triggerContract owner token.contract Abi.transferMethod
      (Hex.encode ((List.replicate 12 0 ++ account) ++
        Abi.amountWord (coin.amount.rescale Amount.protocolDecimals token.decimals))) limit))
      state = (some (.ok shell), after)) :
    Action.Gives answer
      (buildTokenTransfer tokens order coin owner (Address.base58OfPayload (0x41 :: account)))
      state shell after := by
  unfold buildTokenTransfer
  rw [listed]
  refine Action.gives_lift_bind.mpr ⟨_, Abi.encodeTransfer_base58 length _, ?_⟩
  refine Action.gives_check_bind.mpr ⟨_, summed, ?_⟩
  refine Action.gives_lift_bind.mpr ⟨_, limited, ?_⟩
  rw [List.drop_left' (Abi.length_selector _)]
  exact Action.gives_node.mpr answered

theorem gives_sign {hash signature : List UInt8} {reply : RemoteSignature}
    (foreign : payer.signers.ownKey? order.vault = none) (remote : payer.signers.remote = true)
    (answered : answer (.remoteSign hash .secp256k1 order.vault) state = (some (.ok reply), after))
    (bytes : reply.bytes = .ok signature)
    (verified : Signer.verify hash signature order.vault = .ok ()) :
    Action.Gives answer (sign payer order hash) state signature after := by
  have asked : (Activity.query (.remoteSign hash .secp256k1 order.vault)).Ends answer state
      (Except.ok reply) after := by
    change (Program.ask _ _).run answer state = _
    rw [Action.run_ask, answered]
    rfl
  have made : Action.Gives answer (signRemotely payer order hash) state signature after := by
    refine Action.gives_bind.mpr ⟨Except.ok reply, after, Action.gives_activity.mpr asked, ?_⟩
    have read : Signer.remoteBytes (.ok reply) = .ok signature := bytes
    rw [read]
    exact Action.gives_pure.mpr ⟨rfl, rfl⟩
  unfold sign
  rw [foreign, remote]
  refine Action.gives_bind.mpr ⟨signature, after, made, ?_⟩
  refine Action.gives_lift_bind.mpr ⟨(), verified, ?_⟩
  exact Action.gives_pure.mpr ⟨rfl, rfl⟩

theorem gives_signUnpaid {ring : List RefBlock} {now time : Int64} {coin : Coin}
    {owner recipient : String} {block : RefBlock} {shell bound : Transaction}
    {hash signature : List UInt8} (some : ring.isEmpty = false)
    (coinKnown : onlyCoin order.coins = .ok coin)
    (ownerKnown : KeyText.address order.vault = .ok owner)
    (recipientKnown : Address.toBase58 order.recipient = .ok recipient)
    (built :
      Action.Gives answer (build payer.tokens order coin owner recipient) state shell between)
    (stamped : stamp now = .ok time) (chosen : RefBlock.select ring time = .some block)
    (binding : Action.Gives answer (bindTo shell block time order.memo) between bound between)
    (spelled : Hex.read bound.id = .ok hash)
    (signing : Action.Gives answer (sign payer order hash) between signature after) :
    Action.Gives answer (signUnpaid payer order ring now) state
      { bound with signatures := bound.signatures ++ [Hex.encode signature] } after := by
  unfold signUnpaid
  rw [some, if_neg Bool.false_ne_true]
  refine Action.gives_lift_bind.mpr ⟨_, coinKnown, ?_⟩
  refine Action.gives_lift_bind.mpr ⟨_, ownerKnown, ?_⟩
  refine Action.gives_lift_bind.mpr ⟨_, recipientKnown, ?_⟩
  refine Action.gives_bind.mpr ⟨_, _, built, ?_⟩
  refine Action.gives_check_bind.mpr ⟨_, stamped, ?_⟩
  rw [chosen]
  refine Action.gives_bind.mpr ⟨_, _, binding, ?_⟩
  refine Action.gives_lift_bind.mpr ⟨_, spelled, ?_⟩
  exact Action.gives_bind.mpr ⟨_, _, signing, Action.gives_pure.mpr ⟨rfl, rfl⟩⟩

def boundTo (shell : Transaction) (block : RefBlock) (hash : String) (time expiration : Int64)
    (memo : String) : Transaction :=
  { shell with raw := { shell.raw with
    refBlockBytes := RefBlock.heightText block.height
    refBlockHash := hash
    timestamp := time
    expiration := expiration
    data := Hex.encode (Utf8.encode memo) } }

/-- Binding succeeds when the id of the block is long enough, the time does not overflow and the
texts of the shell can be read. -/
theorem gives_bindTo {shell : Transaction} {block : RefBlock} {time expiration : Int64}
    {memo hash : String} {parts : Transaction.Parts}
    (named : RefBlock.hashText block.id = .ok hash)
    (expires : Checked.add time validity = .ok expiration)
    (known : (boundTo shell block hash time expiration memo).HasParts parts) :
    Action.Gives answer (bindTo shell block time memo) state
      ((boundTo shell block hash time expiration memo).withSigned
        (parts.renew (boundTo shell block hash time expiration memo).raw).encode) state := by
  have rehashed := Transaction.rehashInPlace_of_hasParts known
  refine Action.gives_lift_bind.mpr ⟨_, named, ?_⟩
  refine Action.gives_check_bind.mpr ⟨_, expires, ?_⟩
  refine Action.gives_lift.mpr ⟨?_, rfl⟩
  change (boundTo shell block hash time expiration memo).rehash = _
  unfold Transaction.rehash
  rw [rehashed]

/-! ### An order that is signed at two times -/

def sharedKey : Curve.PublicKey where
  x := 31119454457256367016610244950123477350371283474592998816153148752352231156700
  y := 5387731662472049796484889911455138742208181196895574242468135398573639828382

def sharedOrder : Order where
  chain := chainName
  recipient := Hex.encode (0x41 :: List.replicate 20 0)
  vault := Hex.encode sharedKey.uncompressed
  coins := [Coin.ofTrx ⟨600, by decide⟩]
  memo := "OUT:1"
  maxGas := []
  gasRate := 1
  inHash := ""
  height := 1

def sharedBlock : RefBlock where
  timestamp := 1738705560000
  height := 68975046
  id := "00000000041c79c6a3d2030405060708"

def sharedData : Wire.SignedData :=
  { Wire.SignedData.empty with contracts := [⟨1, some ⟨"T", [9]⟩, [], [], 0⟩] }

def sharedShell : Transaction where
  visible := some true
  id := "00"
  raw := ⟨[⟨.object [("amount", .integer 6)], "T", transferKind, none⟩], "", "", 0, 0, "", none⟩
  rawHex := Hex.encode sharedData.encode
  signatures := []
  outcomes := []

def sharedParts : Transaction.Parts where
  stale := sharedData
  refBlockBytes := RefBlock.heightBytes sharedBlock.height
  refBlockHash := [0xa3, 0xd2, 3, 4, 5, 6, 7, 8]
  data := Utf8.encode sharedOrder.memo

def boundShell (time : Int64) : Transaction :=
  boundTo sharedShell sharedBlock (Hex.encode sharedParts.refBlockHash) time (time + 90000)
    sharedOrder.memo

def boundBytes (time : Int64) : List UInt8 :=
  (sharedParts.renew (boundShell time).raw).encode

def firstNow : Int64 := 1738705583123

def secondNow : Int64 := 1738705593123

def firstTime : Int64 := 1738705570000

def secondTime : Int64 := 1738705580000

def firstHash : Nat :=
  50016547205043596724296847924738735264675606583469987869733023537241431492858

def secondHash : Nat :=
  76813156527956346981350846429713698774248974692229473642963833078386283369572

/-- A signature of a hash by the key, with the generator as its nonce point. -/
def sharedSignature (hash : List UInt8) : RemoteSignature where
  parts := BigEndian.ofNat 32 Curve.generator.x ++ BigEndian.ofNat 32
    ((Curve.generator.x + BigEndian.toNat hash + (Curve.order - firstHash)) % Curve.order)
  recovery := 0

def sharedAnswer : (question : Question) → Memory → Option question.Answer × Memory
  | .memory, memory => (some memory, memory)
  | .node (.createTransaction _ _ _ _), memory => (some (.ok sharedShell), memory)
  | .remoteSign hash _ _, memory => (some (.ok (sharedSignature hash)), memory)
  | _, memory => (none, memory)

def sharedPayer : Payer := ⟨[], ⟨none, true, false⟩⟩

def sharedMemory : Memory := ⟨[sharedBlock], 0, none, true, 0⟩

def sharedPayment (time : Int64) (hash : List UInt8) : Transaction :=
  { (boundShell time).withSigned (boundBytes time) with
    signatures := [Hex.encode ((sharedSignature hash).parts ++ [0])] }

theorem digest_first : Sha256.digest (boundBytes firstTime) = BigEndian.ofNat 32 firstHash := by
  decide +kernel

theorem digest_second : Sha256.digest (boundBytes secondTime) = BigEndian.ofNat 32 secondHash := by
  decide +kernel

theorem recover_first :
    (Curve.recover (BigEndian.ofNat 32 firstHash)
      ((sharedSignature (BigEndian.ofNat 32 firstHash)).parts ++ [0])).toOption =
        some sharedKey := by
  decide +kernel

theorem recover_second :
    (Curve.recover (BigEndian.ofNat 32 secondHash)
      ((sharedSignature (BigEndian.ofNat 32 secondHash)).parts ++ [0])).toOption =
        some sharedKey := by
  decide +kernel

theorem parse_sharedVault : KeyText.parse sharedOrder.vault = .ok sharedKey := by
  unfold sharedOrder
  rw [KeyText.parse_encode]
  rfl

theorem hashText_sharedBlock :
    (RefBlock.hashText sharedBlock.id).toOption = some (Hex.encode sharedParts.refBlockHash) := by
  decide +kernel

theorem length_sharedSignature (hash : List UInt8) : (sharedSignature hash).parts.length = 64 := by
  unfold sharedSignature
  rw [List.length_append, BigEndian.length_ofNat, BigEndian.length_ofNat]

theorem bytes_sharedSignature (hash : List UInt8) :
    (sharedSignature hash).bytes = .ok ((sharedSignature hash).parts ++ [0]) := by
  unfold RemoteSignature.bytes
  rw [if_pos (length_sharedSignature hash)]
  rfl

theorem hasParts_boundShell (time : Int64) : (boundShell time).HasParts sharedParts where
  stale := ⟨_, Hex.decode_encode _, Wire.SignedData.decode_encode _ (by decide +kernel)⟩
  refBlockBytes := Hex.decode_encode _
  refBlockHash := Hex.decode_encode _
  data := Hex.decode_encode _

theorem recover_sharedSignature {hash : List UInt8}
    (recovered : (Curve.recover hash ((sharedSignature hash).parts ++ [0])).toOption =
      some sharedKey) :
    Signer.recover hash ((sharedSignature hash).parts ++ [0]) = .ok sharedKey := by
  unfold Signer.recover Curve.signatureLength
  rw [if_neg (not_not_intro (by rw [List.length_append, length_sharedSignature]; rfl)),
    eq_ok_of_toOption recovered]
  rfl

theorem gives_sharedPayment
    (builds : ∀ owner recipient amount memo,
      answer (.node (.createTransaction owner recipient amount memo)) state =
        (some (.ok sharedShell), state))
    (signs : ∀ hash algorithm key,
      answer (.remoteSign hash algorithm key) state = (some (.ok (sharedSignature hash)), state))
    {now time : Int64} {hash : List UInt8} (stamped : stamp now = .ok time)
    (chosen : RefBlock.select [sharedBlock] time = some sharedBlock)
    (expires : Checked.add time validity = .ok (time + 90000))
    (digest : Sha256.digest (boundBytes time) = hash)
    (recovered : (Curve.recover hash ((sharedSignature hash).parts ++ [0])).toOption =
      some sharedKey) :
    Action.Gives answer (signUnpaid sharedPayer sharedOrder [sharedBlock] now) state
      (sharedPayment time hash) state := by
  have spelled : Hex.read ((boundShell time).withSigned (boundBytes time)).id = .ok hash := by
    rw [← digest]
    exact Hex.read_encode _
  have owner := KeyText.address_of_parse parse_sharedVault
  have recipient : Address.toBase58 sharedOrder.recipient = .ok _ :=
    Address.toBase58_hex List.length_replicate
  have built (owner recipient : String) : Action.Gives answer
      (build sharedPayer.tokens sharedOrder (Coin.ofTrx ⟨600, by decide⟩) owner recipient) state
      sharedShell state :=
    Action.gives_lift_bind.mpr ⟨_, rfl, Action.gives_node.mpr (builds _ _ _ _)⟩
  have binding : Action.Gives answer (bindTo sharedShell sharedBlock time sharedOrder.memo) state
      ((boundShell time).withSigned (boundBytes time)) state :=
    gives_bindTo (eq_ok_of_toOption hashText_sharedBlock) expires (hasParts_boundShell time)
  have verified := verify_eq_ok parse_sharedVault (recover_sharedSignature recovered)
  have signing : Action.Gives answer (sign sharedPayer sharedOrder hash) state _ state :=
    gives_sign rfl rfl (signs _ _ _) (bytes_sharedSignature hash) verified
  exact gives_signUnpaid rfl rfl owner recipient (built _ _) stamped chosen binding spelled signing

theorem gives_firstPayment :
    Action.Gives sharedAnswer (signUnpaid sharedPayer sharedOrder [sharedBlock] firstNow)
      sharedMemory (sharedPayment firstTime (BigEndian.ofNat 32 firstHash)) sharedMemory :=
  gives_sharedPayment (fun _ _ _ _ => rfl) (fun _ _ _ => rfl) rfl rfl rfl digest_first
    recover_first

theorem gives_secondPayment :
    Action.Gives sharedAnswer (signUnpaid sharedPayer sharedOrder [sharedBlock] secondNow)
      sharedMemory (sharedPayment secondTime (BigEndian.ofNat 32 secondHash)) sharedMemory :=
  gives_sharedPayment (fun _ _ _ _ => rfl) (fun _ _ _ => rfl) rfl rfl rfl digest_second
    recover_second

end TronGateway.Payment
