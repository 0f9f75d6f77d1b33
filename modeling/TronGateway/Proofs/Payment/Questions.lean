import TronGateway.Payment
import TronGateway.Proofs.Action
set_option autoImplicit false

/-!
# What a call that signs asks

It reads the record first. From there on it asks for the memory, asks the node to build the
transaction, and then asks nothing but for a signature.
-/

namespace TronGateway.Payment

abbrev Call := Activity (Except Error String)

def afterRecord (payer : Payer) (order : Order) (now : Int64) :
    Except Error (Option String) → Call
  | .error failure => .done (.error failure)
  | .ok (some _) => .done (.ok "")
  | .ok none => ExceptT.run do
    let memory ← Action.memory
    let tx ← signUnpaid payer order memory.ring now
    return tx.toText

theorem run_signOrder (payer : Payer) (order : Order) (now : Int64) :
    (signOrder payer order now).run =
      .ask (.store (.get (PaymentRecord.orderKey order.fingerprint)))
        (afterRecord payer order now) := by
  change Program.ask _ _ = _
  refine congrArg (Program.ask _) (funext fun reply => ?_)
  rcases reply with failure | _ | id
  · rfl
  · rfl
  · rfl

/-- The question has the node build a transaction. -/
def IsBuilding : Question → Prop
  | .node (.createTransaction _ _ _ _) => True
  | .node (.triggerContract _ _ _ _ _) => True
  | _ => False

theorem asks_build (tokens : List Token) (order : Order) (coin : Coin) (owner recipient : String) :
    (build tokens order coin owner recipient).run.Asks IsBuilding := by
  unfold build
  split
  · exact Action.asks_bind (Action.asks_lift _) fun amount => Action.asks_node trivial
  · unfold buildTokenTransfer
    split
    · exact Action.asks_throw _
    · refine Action.asks_bind (Action.asks_lift _) fun call => ?_
      refine Action.asks_bind (Action.asks_check _) fun gas => ?_
      exact Action.asks_bind (Action.asks_lift _) fun limit => Action.asks_node trivial

/-- The question is for a signature, or says who is to blame that there is none. -/
def IsSigning : Question → Prop
  | .remoteSign _ _ _ => True
  | .reportBlame _ _ _ _ _ => True
  | _ => False

theorem asks_bindTo {allowed : Question → Prop} (tx : Transaction) (block : RefBlock)
    (stamp : Int64) (memo : String) : (bindTo tx block stamp memo).run.Asks allowed :=
  Action.asks_bind (Action.asks_lift _) fun _ =>
    Action.asks_bind (Action.asks_check _) fun _ => Action.asks_lift _

theorem asks_signRemotely (payer : Payer) (order : Order) (hash : List UInt8) :
    (signRemotely payer order hash).run.Asks IsSigning := by
  have blames (blame : Blame) : (reportBlame payer order blame).Asks IsSigning := by
    unfold reportBlame
    split
    · exact .done _
    · exact .ask _ _ trivial fun _ => .done _
  unfold signRemotely
  refine Action.asks_bind (.ask _ _ trivial fun _ => .done _) fun reply => ?_
  split
  · exact Action.asks_pure _
  · exact Action.asks_bind (Action.asks_activity (blames _)) fun _ => Action.asks_throw _
  · exact Action.asks_throw _

theorem asks_sign (payer : Payer) (order : Order) (hash : List UInt8) :
    (sign payer order hash).run.Asks IsSigning := by
  have verified (signature : List UInt8) : ExceptT.run (do
      Signer.verify hash signature order.vault
      return signature : Action (List UInt8)) |>.Asks IsSigning :=
    Action.asks_bind (Action.asks_lift _) fun _ => Action.asks_pure _
  unfold sign
  dsimp only
  split
  · exact Action.asks_bind (Action.asks_lift _) verified
  · split
    · exact Action.asks_bind (asks_signRemotely payer order hash) verified
    · exact Action.asks_bind (Action.asks_throw _) verified

def finish (payer : Payer) (order : Order) (ring : List RefBlock) (now : Int64)
    (shell : Transaction) : Action Transaction := do
  let stamp ← Action.check (stamp now)
  match RefBlock.select ring stamp with
  | none => throw .noRefBlock
  | some block =>
    let tx ← bindTo shell block stamp order.memo
    let hash ← Hex.read tx.id
    let signature ← sign payer order hash
    return { tx with signatures := tx.signatures ++ [Hex.encode signature] }

theorem signUnpaid_eq (payer : Payer) (order : Order) (ring : List RefBlock) (now : Int64) :
    signUnpaid payer order ring now =
      if ring.isEmpty then throw .noRefBlock
      else (do
        let coin ← onlyCoin order.coins
        let owner ← KeyText.address order.vault
        let recipient ← Address.toBase58 order.recipient
        let shell ← build payer.tokens order coin owner recipient
        finish payer order ring now shell) := rfl

/-- The part of signing up to the shell. Who can sign has no part in it. -/
def prepare (tokens : List Token) (order : Order) (ring : List RefBlock) : Action Transaction :=
  if ring.isEmpty then throw .noRefBlock
  else do
    let coin ← onlyCoin order.coins
    let owner ← KeyText.address order.vault
    let recipient ← Address.toBase58 order.recipient
    build tokens order coin owner recipient

theorem signUnpaid_eq_prepare (payer : Payer) (order : Order) (ring : List RefBlock)
    (now : Int64) :
    signUnpaid payer order ring now =
      prepare payer.tokens order ring >>= finish payer order ring now := by
  rw [signUnpaid_eq]
  unfold prepare
  split
  · rfl
  · simp only [bind_assoc]

theorem asks_prepare (tokens : List Token) (order : Order) (ring : List RefBlock) :
    (prepare tokens order ring).run.Asks IsBuilding := by
  unfold prepare
  split
  · exact Action.asks_throw _
  · refine Action.asks_bind (Action.asks_lift _) fun coin => ?_
    refine Action.asks_bind (Action.asks_lift _) fun owner => ?_
    exact Action.asks_bind (Action.asks_lift _) fun recipient => asks_build _ _ _ _ _

theorem asks_finish (payer : Payer) (order : Order) (ring : List RefBlock) (now : Int64)
    (shell : Transaction) : (finish payer order ring now shell).run.Asks IsSigning := by
  unfold finish
  apply Action.asks_bind (Action.asks_check _)
  intro stamp
  split
  · exact Action.asks_throw _
  · apply Action.asks_bind (asks_bindTo _ _ _ _)
    intro tx
    apply Action.asks_bind (Action.asks_lift _)
    intro hash
    apply Action.asks_bind (asks_sign _ _ _)
    intro signature
    exact Action.asks_pure _

end TronGateway.Payment
