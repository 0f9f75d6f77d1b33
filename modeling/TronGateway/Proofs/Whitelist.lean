import TronGateway.Whitelist
import TronGateway.Proofs.Action
import TronGateway.Proofs.Address
set_option autoImplicit false

/-!
# What a loaded whitelist holds

Every token of a loaded whitelist has the base58 spelling of its contract, and where no two
contracts differ only in the case of letters, a token is found by its contract.
-/

namespace TronGateway

variable {State : Type}
  {answer : (question : Question) → State → Option question.Answer × State}
  {state after : State} {tokens : List Token} {token : Token}

namespace Whitelist

theorem base58_of_loadToken {address : String}
    (loaded : Action.Gives answer (loadToken address) state token after) :
    Address.toBase58 token.contract = .ok token.contract := by
  unfold loadToken at loaded
  obtain ⟨contract, spelled, loaded⟩ := Action.gives_lift_bind.mp loaded
  obtain ⟨contractHex, hexadecimal, loaded⟩ := Action.gives_lift_bind.mp loaded
  obtain ⟨_, _, -, loaded⟩ := Action.gives_bind.mp loaded
  obtain ⟨symbol, _, -, loaded⟩ := Action.gives_bind.mp loaded
  obtain ⟨_, _, -, loaded⟩ := Action.gives_bind.mp loaded
  obtain ⟨_, _, -, loaded⟩ := Action.gives_bind.mp loaded
  obtain ⟨decimals, _, -, loaded⟩ := Action.gives_bind.mp loaded
  obtain ⟨rfl, -⟩ := Action.gives_pure.mp loaded
  exact Address.toBase58_of_toContractHex spelled hexadecimal

theorem gives_load_nil : Action.Gives answer (load []) state [] state :=
  Action.gives_pure.mpr ⟨rfl, rfl⟩

theorem gives_load_cons {address : String} {rest : List String} {between : State}
    (one : Action.Gives answer (loadToken address) state token between)
    (others : Action.Gives answer (load rest) between tokens after) :
    Action.Gives answer (load (address :: rest)) state (token :: tokens) after := by
  have listed : Action.Gives answer (pure (token :: tokens)) after (token :: tokens) after :=
    Action.gives_pure.mpr ⟨rfl, rfl⟩
  unfold load
  refine Action.gives_bind.mpr ⟨token, between, one, ?_⟩
  exact Action.gives_bind.mpr ⟨tokens, after, others, listed⟩

theorem base58_of_load {addresses : List String}
    (loaded : Action.Gives answer (load addresses) state tokens after) :
    ∀ token ∈ tokens, Address.toBase58 token.contract = .ok token.contract := by
  induction addresses generalizing state tokens with
  | nil =>
      obtain ⟨rfl, -⟩ := Action.gives_pure.mp loaded
      exact List.forall_mem_nil _
  | cons address rest ih =>
      unfold load at loaded
      obtain ⟨first, between, one, loaded⟩ := Action.gives_bind.mp loaded
      obtain ⟨others, last, many, loaded⟩ := Action.gives_bind.mp loaded
      obtain ⟨rfl, rfl⟩ := Action.gives_pure.mp loaded
      exact List.forall_mem_cons.mpr ⟨base58_of_loadToken one, ih many⟩

end Whitelist

namespace Token

/-- No two contracts are the same when the case of letters does not count. -/
def AreDistinct (tokens : List Token) : Prop :=
  tokens.Pairwise fun token other =>
    Text.sameIgnoringAsciiCase token.contract other.contract = false

theorem findByContract?_of_mem (distinct : AreDistinct tokens) (member : token ∈ tokens) :
    findByContract? tokens token.contract = some token := by
  unfold findByContract?
  induction distinct with
  | nil => cases member
  | @cons first rest others _ ih =>
      rcases List.mem_cons.mp member with rfl | behind
      · have same : Text.sameIgnoringAsciiCase token.contract token.contract = true :=
          beq_self_eq_true _
        rw [List.find?_cons, same]
      · rw [List.find?_cons, others token behind]
        exact ih behind

theorem findByAsset?_singleton (token : Token) :
    findByAsset? [token] token.asset = some token := by
  unfold findByAsset?
  rw [List.find?_cons, decide_eq_true rfl]

theorem mem_of_findByAsset? {asset : Asset} (listed : findByAsset? tokens asset = some token) :
    token ∈ tokens ∧ token.asset = asset := by
  unfold findByAsset? at listed
  have same := List.find?_some listed
  exact ⟨List.mem_of_find?_eq_some listed, of_decide_eq_true same⟩

end Token
end TronGateway
