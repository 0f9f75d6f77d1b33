import TronGateway.Proofs.Payment
import TronGateway.Proofs.Payment.Amount
set_option autoImplicit false

/-!
# Signing that fails

A call that signs writes nothing, whatever becomes of it. It turns to the node and the signers only
for an order that can be paid, and when the signing service names nodes to blame, these are reported
once and the call fails with what the service said.
-/

namespace TronGateway

variable {State : Type}
  {answer : (question : Question) → State → Option question.Answer × State} {α β : Type}

abbrev Exchange := Program.Exchange Question.Answer

namespace Action

/-- A sequence that comes to its end in its first part ends as that did. -/
inductive Halts : Outcome (Except Error α) → Outcome (Except Error β) → Prop where
  | failed (failure : Error) : Halts (.finished (.error failure)) (.finished (.error failure))
  | overflowed (overflow : Overflow) : Halts (.overflowed overflow) (.overflowed overflow)
  | stalled : Halts .stalled .stalled

theorem bind_cases (answer : (question : Question) → State → Option question.Answer × State)
    (action : Action α) (next : α → Action β) (state : State) :
    (∃ value between, Gives answer action state value between ∧
      (action >>= next).run.run answer state = (next value).run.run answer between ∧
      (action >>= next).run.exchanges answer state =
        action.run.exchanges answer state ++ (next value).run.exchanges answer between) ∨
    Halts (action.run.run answer state).1 ((action >>= next).run.run answer state).1 ∧
      (action >>= next).run.exchanges answer state = action.run.exchanges answer state := by
  have events : (action >>= next).run.exchanges answer state =
      action.run.exchanges answer state ++
        Program.exchangesNext answer (ExceptT.bindCont next) (action.run.run answer state) :=
    Program.exchanges_bind action.run (ExceptT.bindCont next) state
  have ran : (action >>= next).run.run answer state =
      Program.runNext answer (ExceptT.bindCont next) (action.run.run answer state) :=
    Program.run_bind answer action.run (ExceptT.bindCont next) state
  unfold Gives
  rw [ran, events]
  rcases action.run.run answer state with ⟨(failure | value) | overflow | _, between⟩
  · exact .inr ⟨.failed failure, List.append_nil _⟩
  · exact .inl ⟨value, between, rfl, rfl, rfl⟩
  · exact .inr ⟨.overflowed overflow, List.append_nil _⟩
  · exact .inr ⟨.stalled, List.append_nil _⟩

inductive Refuses : Activity (Except Error α) → Prop where
  | failed (failure : Error) : Refuses (.done (.error failure))
  | overflowed (overflow : Overflow) : Refuses (.abort overflow)

theorem refuses_lift_bind {result : Except Error α} {next : α → Action β}
    (behind : ∀ value, result = .ok value → Refuses (next value).run) :
    Refuses ((liftM result : Action α) >>= next).run := by
  cases result with
  | error failure => exact .failed failure
  | ok value => exact behind value rfl

theorem refuses_check_bind {result : Except Overflow α} {next : α → Action β}
    (behind : ∀ value, result = .ok value → Refuses (next value).run) :
    Refuses (check result >>= next).run := by
  cases result with
  | error overflow => exact .overflowed overflow
  | ok value => exact behind value rfl

theorem Refuses.bind {action : Action α} (refuses : Refuses action.run) :
    ∃ ending, Refuses ending ∧ ∀ next : α → Action β, (action >>= next).run = ending := by
  generalize same : action.run = program at refuses
  have bound (next : α → Action β) :
      (action >>= next).run = program.bind (ExceptT.bindCont next) := by
    rw [← same]
    rfl
  cases refuses with
  | failed failure => exact ⟨_, .failed failure, bound⟩
  | overflowed overflow => exact ⟨_, .overflowed overflow, bound⟩

end Action

namespace Payment

variable {payer : Payer} {tokens : List Token} {order : Order} {now : Int64}

/-! ### Orders that cannot be paid -/

/-- The order has not one coin that is worth something, a party of it cannot be read, its token is
not whitelisted, or an amount of it does not fit the request. -/
inductive Unsignable (tokens : List Token) (order : Order) : Prop where
  | coins (worthless : ∀ coin, order.coins = [coin] → coin.isEmpty = true)
  | vault {failure : Error} (unread : KeyText.parse order.vault = .error failure)
  | recipient {failure : Error} (unread : Address.toBase58 order.recipient = .error failure)
  | token {coin : Coin} (single : order.coins = [coin]) (other : coin.asset ≠ Asset.trx)
      (unlisted : Token.findByAsset? tokens coin.asset = none)
  | amount {coin : Coin} (single : order.coins = [coin]) (gas : coin.asset = Asset.trx)
      (large : 2 ^ 64 ≤ coin.amount.units / 100)
  | maxGas {coin : Coin} (single : order.coins = [coin]) (other : coin.asset ≠ Asset.trx)
      (large : ∀ gas, Coin.total order.maxGas Asset.trx = .ok gas → 2 ^ 64 ≤ gas.units / 100)

theorem refuses_payable {amount : Amount} {fault : String} {next : UInt64 → Action β}
    (large : 2 ^ 64 ≤ amount.units / 100) :
    Action.Refuses (liftM (payable amount.toSun fault) >>= next : Action β).run := by
  apply Action.refuses_lift_bind
  intro sun fits
  rw [payable_of_large (by rwa [units_toSun])] at fits
  cases fits

theorem refuses_prepare {ring : List RefBlock} (refused : ring = [] ∨ Unsignable tokens order) :
    Action.Refuses (prepare tokens order ring).run := by
  unfold prepare
  split
  · exact .failed _
  · next occupied =>
      apply Action.refuses_lift_bind
      intro coin coinKnown
      apply Action.refuses_lift_bind
      intro owner ownerKnown
      apply Action.refuses_lift_bind
      intro recipient recipientKnown
      obtain ⟨single, worth⟩ := onlyCoin_eq_ok_iff.mp coinKnown
      have only {other : Coin} (also : order.coins = [other]) : other = coin :=
        List.head_eq_of_cons_eq (also.symm.trans single)
      rcases refused with empty | unsignable
      · rw [empty] at occupied
        exact absurd rfl occupied
      cases unsignable with
      | coins worthless =>
          rw [worthless coin single] at worth
          cases worth
      | vault unread =>
          unfold KeyText.address at ownerKnown
          rw [unread] at ownerKnown
          cases ownerKnown
      | recipient unread =>
          rw [unread] at recipientKnown
          cases recipientKnown
      | token also other unlisted =>
          cases only also
          unfold build Asset.isGas
          rw [if_neg (mt of_decide_eq_true other)]
          unfold buildTokenTransfer
          rw [unlisted]
          exact .failed _
      | amount also gas large =>
          cases only also
          unfold build Asset.isGas
          rw [if_pos (decide_eq_true gas)]
          exact refuses_payable large
      | maxGas also other large =>
          cases only also
          unfold build Asset.isGas
          rw [if_neg (mt of_decide_eq_true other)]
          unfold buildTokenTransfer
          split
          · exact .failed _
          · apply Action.refuses_lift_bind
            intro call _
            apply Action.refuses_check_bind
            intro gas summed
            exact refuses_payable (large gas summed)

/-! ### How the signers are asked -/

/-- What signing asks at the end of a call, and how the call ends. -/
inductive Signs (payer : Payer) (order : Order) :
    List Exchange → Outcome (Except Error α) → Prop where
  | unasked (outcome : Outcome (Except Error α)) : Signs payer order [] outcome
  | answered (hash : List UInt8) (reply : Option (Except Error RemoteSignature))
      (outcome : Outcome (Except Error α))
      (innocent : ∀ blame, reply ≠ some (.error (.keysignBlame blame))) :
      Signs payer order [⟨.remoteSign hash .secp256k1 order.vault, reply⟩] outcome
  | kept (hash : List UInt8) (blame : Blame)
      (quiet : blame.nodes = [] ∨ payer.signers.reporter = false) :
      Signs payer order
        [⟨.remoteSign hash .secp256k1 order.vault, some (.error (.keysignBlame blame))⟩]
        (.finished (.error (.keysignBlame blame)))
  | reported (hash : List UInt8) (blame : Blame) (reply : Option (Except Error String))
      (outcome : Outcome (Except Error α)) (foreign : payer.signers.ownKey? order.vault = none)
      (named : blame.nodes ≠ []) (listening : payer.signers.reporter = true)
      (ended : reply.isSome → outcome = .finished (.error (.keysignBlame blame))) :
      Signs payer order
        [⟨.remoteSign hash .secp256k1 order.vault, some (.error (.keysignBlame blame))⟩,
          ⟨.reportBlame blame order.height order.memo order.coins order.vault, reply⟩] outcome

/-- Behind questions that are not for the signers, these are asked. -/
def Courses (payer : Payer) (order : Order) (events : List Exchange)
    (outcome : Outcome (Except Error α)) : Prop :=
  ∃ front last, events = front ++ last ∧ (∀ event ∈ front, ¬ IsSigning event.question) ∧
    Signs payer order last outcome

def Follows (answer : (question : Question) → State → Option question.Answer × State)
    (payer : Payer) (order : Order) (action : Action α) : Prop :=
  ∀ state, Courses payer order (action.run.exchanges answer state)
    (action.run.run answer state).1

theorem Signs.of_halts {events : List Exchange} {ended : Outcome (Except Error α)}
    {outcome : Outcome (Except Error β)} (signs : Signs payer order events ended)
    (halts : Action.Halts ended outcome) : Signs payer order events outcome := by
  cases signs with
  | unasked => exact .unasked outcome
  | answered hash reply _ innocent => exact .answered hash reply outcome innocent
  | kept hash blame quiet =>
      cases halts
      exact .kept hash blame quiet
  | reported hash blame reply _ foreign named listening known =>
      refine .reported hash blame reply outcome foreign named listening fun told => ?_
      rw [known told] at halts
      cases halts
      rfl

theorem Signs.of_value {events : List Exchange} {value : α}
    (signs : Signs payer order events (.finished (.ok value)))
    (outcome : Outcome (Except Error β)) : Signs payer order events outcome := by
  cases signs with
  | unasked => exact .unasked outcome
  | answered hash reply _ innocent => exact .answered hash reply outcome innocent
  | reported hash blame reply _ foreign named listening known =>
      refine .reported hash blame reply outcome foreign named listening fun told => ?_
      cases known told

theorem follows_of_plain {action : Action α}
    (plain : action.run.Asks fun question => ¬ IsSigning question) :
    Follows answer payer order action := by
  intro state
  exact ⟨_, [], (List.append_nil _).symm, fun event member => plain.exchanged member,
    .unasked _⟩

theorem follows_plain_bind {action : Action α} {next : α → Action β}
    (plain : action.run.Asks fun question => ¬ IsSigning question)
    (behind : ∀ value, Follows answer payer order (next value)) :
    Follows answer payer order (action >>= next) := by
  intro state
  rcases Action.bind_cases answer action next state with
    ⟨value, between, -, ran, events⟩ | ⟨-, events⟩
  · obtain ⟨front, last, split, silent, signs⟩ := behind value between
    refine ⟨action.run.exchanges answer state ++ front, last, ?_, ?_, ?_⟩
    · rw [events, split, List.append_assoc]
    · intro event member
      rcases List.mem_append.mp member with early | late
      · exact plain.exchanged early
      · exact silent event late
    · rw [ran]
      exact signs
  · refine ⟨action.run.exchanges answer state, [], ?_, ?_, .unasked _⟩
    · rw [events, List.append_nil]
    · intro event member
      exact plain.exchanged member

theorem follows_bind_silent {action : Action α} {next : α → Action β}
    (follows : Follows answer payer order action)
    (silent : ∀ value, (next value).run.Asks fun _ => False) :
    Follows answer payer order (action >>= next) := by
  intro state
  obtain ⟨front, last, split, plain, signs⟩ := follows state
  rcases Action.bind_cases answer action next state with
    ⟨value, between, gives, -, events⟩ | ⟨halts, events⟩
  · have nothing : (next value).run.exchanges answer between = [] := by
      apply List.eq_nil_iff_forall_not_mem.mpr
      intro event member
      exact (silent value).exchanged member
    refine ⟨front, last, ?_, plain, ?_⟩
    · rw [events, nothing, List.append_nil, split]
    · unfold Action.Gives at gives
      rw [gives] at signs
      exact signs.of_value _
  · exact ⟨front, last, events.trans split, plain, signs.of_halts halts⟩

theorem remoteBytes_eq_blame {reply : Except Error RemoteSignature} {blame : Blame}
    (failed : Signer.remoteBytes reply = .error (.keysignBlame blame)) :
    reply = .error (.keysignBlame blame) := by
  cases reply with
  | error failure =>
      cases failed
      rfl
  | ok signature =>
      change signature.bytes = _ at failed
      unfold RemoteSignature.bytes at failed
      split at failed
      · cases failed
      · cases failed

theorem signs_blamed (hash : List UInt8) (blame : Blame)
    (foreign : payer.signers.ownKey? order.vault = none) (state : State) :
    Signs payer order
      (⟨.remoteSign hash .secp256k1 order.vault, some (.error (.keysignBlame blame))⟩ ::
        Program.exchanges answer (do
          ExceptT.lift (reportBlame payer order blame)
          throw (.keysignBlame blame) : Action (List UInt8)).run state)
      (Program.run answer (do
          ExceptT.lift (reportBlame payer order blame)
          throw (.keysignBlame blame) : Action (List UInt8)).run state).1 := by
  unfold reportBlame
  split
  · next quiet =>
      refine .kept hash blame ?_
      simpa using quiet
  · next loud =>
      have told : blame.nodes ≠ [] ∧ payer.signers.reporter = true := by simpa using loud
      change Signs payer order
        (_ :: Program.exchanges answer (.ask (.reportBlame ..) fun _ => .done _) state)
        (Program.run answer (.ask (.reportBlame ..) fun _ => .done _) state).1
      rw [Program.exchanges, Program.run]
      rcases answer (.reportBlame blame order.height order.memo order.coins order.vault) state
        with ⟨_ | reply, after⟩
      · exact .reported hash blame none _ foreign told.1 told.2 (by simp)
      · exact .reported hash blame (some reply) _ foreign told.1 told.2 fun _ => rfl

theorem follows_signRemotely (hash : List UInt8)
    (foreign : payer.signers.ownKey? order.vault = none) :
    Follows answer payer order (signRemotely payer order hash) := by
  intro state
  refine ⟨[], _, rfl, List.forall_mem_nil _, ?_⟩
  change Signs payer order
    ((Program.ask (.remoteSign hash .secp256k1 order.vault) _).exchanges answer state)
    ((Program.ask (.remoteSign hash .secp256k1 order.vault) _).run answer state).1
  rw [Program.exchanges, Program.run]
  rcases answer (.remoteSign hash .secp256k1 order.vault) state with ⟨_ | reply, after⟩
  · exact .answered hash none _ (by simp)
  · simp only [Program.done_bind, Function.comp_apply, ExceptT.bindCont]
    have told {blame : Blame} (same : some reply = some (.error (.keysignBlame blame))) :
        Signer.remoteBytes reply = .error (.keysignBlame blame) := by
      cases same
      rfl
    split
    · next signature made =>
        refine .answered hash (some reply) _ fun blame same => ?_
        rw [told same] at made
        cases made
    · next blame failed =>
        obtain rfl := remoteBytes_eq_blame failed
        exact signs_blamed hash blame foreign after
    · next failure other failed =>
        refine .answered hash (some reply) _ fun blame same => ?_
        rw [told same] at failed
        cases failed
        exact other blame rfl

theorem follows_sign (hash : List UInt8) : Follows answer payer order (sign payer order hash) := by
  have silent (signature : List UInt8) : (do
      Signer.verify hash signature order.vault
      return signature : Action (List UInt8)).run.Asks fun _ => False :=
    Action.asks_bind (Action.asks_lift _) fun _ => Action.asks_pure _
  unfold sign
  dsimp only
  split
  · exact follows_bind_silent (follows_of_plain (Action.asks_lift _)) silent
  · next foreign =>
      split
      · exact follows_bind_silent (follows_signRemotely hash foreign) silent
      · exact follows_bind_silent (follows_of_plain (Action.asks_throw _)) silent

theorem follows_finish (ring : List RefBlock) (shell : Transaction) :
    Follows answer payer order (finish payer order ring now shell) := by
  unfold finish
  apply follows_plain_bind (Action.asks_check _)
  intro stamp
  split
  · exact follows_of_plain (Action.asks_throw _)
  · apply follows_plain_bind (asks_bindTo _ _ _ _)
    intro tx
    apply follows_plain_bind (Action.asks_lift _)
    intro hash
    exact follows_bind_silent (follows_sign hash) fun signature => Action.asks_pure _

theorem follows_signUnpaid (ring : List RefBlock) :
    Follows answer payer order (signUnpaid payer order ring now) := by
  have plain {question : Question} (building : IsBuilding question) : ¬ IsSigning question := by
    intro signing
    cases question with
    | node call => cases signing
    | _ => cases building
  rw [signUnpaid_eq_prepare]
  exact follows_plain_bind ((asks_prepare _ _ _).mono fun _ => plain) (follows_finish ring)

theorem follows_signOrder : Follows answer payer order (signOrder payer order now) := by
  have stored : (Action.ofStored (PaymentRecord.isPaid order.fingerprint)).run.Asks
      fun question => ¬ IsSigning question := by
    refine .ask _ _ id fun reply => ?_
    cases reply with
    | error failure => exact .done _
    | ok found => exact .done _
  unfold signOrder
  apply follows_plain_bind stored
  intro paid
  cases paid with
  | true => exact follows_of_plain (Action.asks_pure _)
  | false =>
      apply follows_plain_bind (Action.asks_memory id)
      intro memory
      exact follows_bind_silent (follows_signUnpaid memory.ring) fun tx => Action.asks_pure _

def isReport : Question → Bool
  | .reportBlame _ _ _ _ _ => true
  | _ => false

/-- The reports of blame that are made. -/
def reports (events : List Exchange) : List Question :=
  (events.map Program.Exchange.question).filter isReport

/-- The service, which signs for the vault, names nodes to blame, and there is a reporter. -/
structure Blamed (payer : Payer) (order : Order) (events : List Exchange) (blame : Blame) :
    Prop where
  foreign : payer.signers.ownKey? order.vault = none
  listening : payer.signers.reporter = true
  named : blame.nodes ≠ []
  failed : ∃ hash,
    ⟨.remoteSign hash .secp256k1 order.vault, some (.error (.keysignBlame blame))⟩ ∈ events

theorem reports_append {front last : List Exchange}
    (plain : ∀ event ∈ front, ¬ IsSigning event.question) :
    reports (front ++ last) = reports last := by
  have nothing : (front.map Program.Exchange.question).filter isReport = [] := by
    apply List.filter_eq_nil_iff.mpr
    intro question member
    obtain ⟨event, inside, rfl⟩ := List.mem_map.mp member
    intro report
    apply plain event inside
    unfold isReport at report
    split at report
    · next same =>
        rw [same]
        trivial
    · cases report
  unfold reports
  rw [List.map_append, List.filter_append, nothing, List.nil_append]

theorem mem_last {front last : List Exchange} {hash : List UInt8} {vault : String}
    {reply : Option (Except Error RemoteSignature)}
    (plain : ∀ event ∈ front, ¬ IsSigning event.question)
    (member : ⟨.remoteSign hash .secp256k1 vault, reply⟩ ∈ front ++ last) :
    ⟨.remoteSign hash .secp256k1 vault, reply⟩ ∈ last := by
  rcases List.mem_append.mp member with early | late
  · exact absurd trivial (plain _ early)
  · exact late

theorem Signs.of_failed {events : List Exchange} {outcome : Outcome (Except Error α)}
    (signs : Signs payer order events outcome) {hash : List UInt8} {blame : Blame}
    (failed :
      ⟨.remoteSign hash .secp256k1 order.vault, some (.error (.keysignBlame blame))⟩ ∈ events) :
    (blame.nodes = [] ∨ payer.signers.reporter = false) ∧
        outcome = .finished (.error (.keysignBlame blame)) ∨
      ∃ reply,
        ⟨.reportBlame blame order.height order.memo order.coins order.vault, reply⟩ ∈ events ∧
        reports events = [.reportBlame blame order.height order.memo order.coins order.vault] ∧
        (reply.isSome → outcome = .finished (.error (.keysignBlame blame))) := by
  cases signs with
  | unasked => cases failed
  | answered other reply _ innocent =>
      cases List.mem_singleton.mp failed
      exact absurd rfl (innocent blame)
  | kept other named quiet =>
      cases List.mem_singleton.mp failed
      exact .inl ⟨quiet, rfl⟩
  | reported other named reply _ foreign _ _ ended =>
      rcases List.mem_cons.mp failed with same | later
      · cases same
        exact .inr ⟨reply, List.mem_cons_of_mem _ List.mem_cons_self, rfl, ended⟩
      · cases List.mem_singleton.mp later

theorem Courses.reports_of_blamed {events : List Exchange} {outcome : Outcome (Except Error α)}
    (courses : Courses payer order events outcome) {blame : Blame}
    (blamed : Blamed payer order events blame) :
    reports events =
      [.reportBlame blame order.height order.memo order.coins order.vault] := by
  obtain ⟨front, last, rfl, plain, signs⟩ := courses
  obtain ⟨hash, failed⟩ := blamed.failed
  rw [reports_append plain]
  rcases signs.of_failed (mem_last plain failed) with ⟨nobody | deaf, -⟩ | ⟨reply, -, made, -⟩
  · exact absurd nobody blamed.named
  · rw [blamed.listening] at deaf
    cases deaf
  · exact made

theorem Courses.reports_of_innocent {events : List Exchange} {outcome : Outcome (Except Error α)}
    (courses : Courses payer order events outcome)
    (innocent : ∀ blame, ¬ Blamed payer order events blame) : reports events = [] := by
  obtain ⟨front, last, rfl, plain, signs⟩ := courses
  rw [reports_append plain]
  cases signs with
  | unasked => rfl
  | answered => rfl
  | kept => rfl
  | reported hash blame reply _ foreign named listening known =>
      refine absurd ?_ (innocent blame)
      exact ⟨foreign, listening, named, hash, List.mem_append_right _ List.mem_cons_self⟩

theorem Courses.ends_blamed {events : List Exchange} {outcome : Outcome (Except Error α)}
    (courses : Courses payer order events outcome) {hash : List UInt8} {blame : Blame}
    (failed :
      ⟨.remoteSign hash .secp256k1 order.vault, some (.error (.keysignBlame blame))⟩ ∈ events)
    (answered : ∀ event ∈ events, event.reply.isSome) :
    outcome = .finished (.error (.keysignBlame blame)) := by
  obtain ⟨front, last, rfl, plain, signs⟩ := courses
  rcases signs.of_failed (mem_last plain failed) with ⟨-, ended⟩ | ⟨reply, made, -, ended⟩
  · exact ended
  · exact ended (answered _ (List.mem_append_right _ made))

/-! ### Calls that are held up -/

/-- The question reads the record or the memory. -/
def IsReading : Question → Prop
  | .store (.get _) => True
  | .memory => True
  | _ => False

/-- The order is on record, as far as the record can be read, or there is no block to refer to. -/
inductive IsHeld (order : Order) (events : List Exchange) : Prop where
  | recorded {reply : Option (Except Error (Option String))}
      (looked : ⟨.store (.get (PaymentRecord.orderKey order.fingerprint)), reply⟩ ∈ events)
      (found : reply ≠ some (.ok none))
  | empty {memory : Memory} (told : ⟨.memory, some memory⟩ ∈ events) (none : memory.ring = [])

def pay (payer : Payer) (order : Order) (ring : List RefBlock) (now : Int64) : Action String := do
  let tx ← signUnpaid payer order ring now
  return tx.toText

theorem asks_pay (payer : Payer) (order : Order) (ring : List RefBlock) (now : Int64) :
    (pay payer order ring now).run.Asks
      fun question => IsBuilding question ∨ IsSigning question := by
  unfold pay
  rw [signUnpaid_eq_prepare]
  refine Action.asks_bind (Action.asks_bind ?_ fun shell => ?_) fun tx => Action.asks_pure _
  · exact (asks_prepare _ _ _).mono fun _ => .inl
  · exact (asks_finish _ _ _ _ _).mono fun _ => .inr

theorem refuses_pay {ring : List RefBlock} (now : Int64)
    (refused : ring = [] ∨ Unsignable tokens order) :
    ∃ ending, Action.Refuses ending ∧
      ∀ signers, (pay ⟨tokens, signers⟩ order ring now).run = ending := by
  obtain ⟨ending, refuses, same⟩ := (refuses_prepare refused).bind (β := String)
  refine ⟨ending, refuses, fun signers => ?_⟩
  unfold pay
  rw [signUnpaid_eq_prepare, bind_assoc]
  exact same _

/-- A call ends with what it has read, or has read that the order is not on record and goes on with
the ring. -/
theorem signOrder_cases (answer : (question : Question) → State → Option question.Answer × State)
    (order : Order) (now : Int64) (state : State) :
    (∃ outcome after events, (∀ payer : Payer,
        (signOrder payer order now).run.run answer state = (outcome, after) ∧
        (signOrder payer order now).run.exchanges answer state = events) ∧
      (∀ event ∈ events, IsReading event.question) ∧
      ∀ payload, outcome = .finished (.ok payload) → payload = "") ∨
    ∃ memory known, ∀ payer : Payer,
      (signOrder payer order now).run.run answer state =
        (pay payer order memory.ring now).run.run answer known ∧
      (signOrder payer order now).run.exchanges answer state =
        ⟨.store (.get (PaymentRecord.orderKey order.fingerprint)), some (.ok none)⟩ ::
          ⟨.memory, some memory⟩ :: (pay payer order memory.ring now).run.exchanges answer known := by
  have reads (reply : Option (Except Error (Option String))) :
      ∀ event ∈ ([⟨.store (.get (PaymentRecord.orderKey order.fingerprint)), reply⟩] :
        List Exchange), IsReading event.question :=
    List.forall_mem_singleton.mpr trivial
  rcases looked : answer (.store (.get (PaymentRecord.orderKey order.fingerprint))) state with
    ⟨_ | failure | _ | id, read⟩
  · refine .inl ⟨.stalled, read, _, fun payer => ⟨?_, ?_⟩, reads none, by simp⟩
    · rw [run_signOrder, Program.run, looked]
    · rw [run_signOrder, Program.exchanges, looked]
  · refine .inl ⟨.finished (.error failure), read, _, fun payer => ⟨?_, ?_⟩,
      reads (some (.error failure)), by simp⟩
    · rw [run_signOrder, Program.run, looked]
      rfl
    · rw [run_signOrder, Program.exchanges, looked]
      rfl
  · rcases told : answer .memory read with ⟨_ | memory, known⟩
    · refine .inl ⟨.stalled, known,
        [⟨.store (.get (PaymentRecord.orderKey order.fingerprint)), some (.ok none)⟩,
          ⟨.memory, none⟩], fun payer => ⟨?_, ?_⟩, ?_, by simp⟩
      · rw [run_signOrder, Program.run, looked]
        change (Program.ask .memory _).run answer read = _
        rw [Program.run, told]
      · rw [run_signOrder, Program.exchanges, looked]
        change _ :: (Program.ask .memory _).exchanges answer read = _
        rw [Program.exchanges, told]
      · exact List.forall_mem_cons.mpr ⟨trivial, List.forall_mem_singleton.mpr trivial⟩
    · refine .inr ⟨memory, known, fun payer => ⟨?_, ?_⟩⟩
      · rw [run_signOrder, Program.run, looked]
        change (Program.ask .memory _).run answer read = _
        rw [Program.run, told]
        rfl
      · rw [run_signOrder, Program.exchanges, looked]
        change _ :: (Program.ask .memory _).exchanges answer read = _
        rw [Program.exchanges, told]
        rfl
  · refine .inl ⟨.finished (.ok ""), read, _, fun payer => ⟨?_, ?_⟩, reads (some (.ok (some id))),
      fun payload same => ?_⟩
    · rw [run_signOrder, Program.run, looked]
      rfl
    · rw [run_signOrder, Program.exchanges, looked]
      rfl
    · cases same
      rfl

theorem not_isReading {question : Question} (paying : IsBuilding question ∨ IsSigning question) :
    ¬ IsReading question := by
  intro reading
  cases question with
  | store call => exact paying.elim id id
  | memory => exact paying.elim id id
  | _ => cases reading

theorem ring_of_isHeld {payer : Payer} {ring : List RefBlock} {memory : Memory} {known : State}
    (held : IsHeld order
      (⟨.store (.get (PaymentRecord.orderKey order.fingerprint)), some (.ok none)⟩ ::
        ⟨.memory, some memory⟩ :: (pay payer order ring now).run.exchanges answer known)) :
    memory.ring = [] := by
  have asks := asks_pay payer order ring now
  cases held with
  | recorded looked found =>
      rcases List.mem_cons.mp looked with same | later
      · cases same
        exact absurd rfl found
      · rcases List.mem_cons.mp later with same | paying
        · cases same
        · exact absurd trivial (not_isReading (asks.exchanged paying))
  | empty told none =>
      rcases List.mem_cons.mp told with same | later
      · cases same
      · rcases List.mem_cons.mp later with same | paying
        · cases same
          exact none
        · exact absurd trivial (not_isReading (asks.exchanged paying))

theorem signOrder_of_held (answer : (question : Question) → State → Option question.Answer × State)
    (payer : Payer) (order : Order) (now : Int64) (state : State)
    (stopped : IsHeld order ((signOrder payer order now).run.exchanges answer state) ∨
      Unsignable payer.tokens order) :
    (∀ event ∈ (signOrder payer order now).run.exchanges answer state,
        IsReading event.question) ∧
      (∀ payload, ((signOrder payer order now).run.run answer state).1 =
        .finished (.ok payload) → payload = "") ∧
      ∀ signers,
        (signOrder ⟨payer.tokens, signers⟩ order now).run.run answer state =
          (signOrder payer order now).run.run answer state ∧
        (signOrder ⟨payer.tokens, signers⟩ order now).run.exchanges answer state =
          (signOrder payer order now).run.exchanges answer state := by
  rcases signOrder_cases answer order now state with
    ⟨outcome, after, events, same, reads, empty⟩ | ⟨memory, known, goes⟩
  · obtain ⟨ran, exchanged⟩ := same payer
    rw [ran, exchanged]
    exact ⟨reads, empty, fun signers => same ⟨payer.tokens, signers⟩⟩
  · obtain ⟨ran, exchanged⟩ := goes payer
    have refused : memory.ring = [] ∨ Unsignable payer.tokens order := by
      rcases stopped with held | unsignable
      · rw [exchanged] at held
        exact .inl (ring_of_isHeld held)
      · exact .inr unsignable
    obtain ⟨ending, refuses, ends⟩ := refuses_pay now refused
    have silent : ending.exchanges answer known = [] := by
      cases refuses with
      | failed failure => rfl
      | overflowed overflow => rfl
    rw [ran, exchanged, ends payer.signers, silent]
    refine ⟨?_, ?_, fun signers => ?_⟩
    · exact List.forall_mem_cons.mpr ⟨trivial, List.forall_mem_singleton.mpr trivial⟩
    · intro payload finished
      cases refuses with
      | failed failure => cases finished
      | overflowed overflow => cases finished
    · rw [(goes _).1, (goes _).2, ends signers, silent]
      exact ⟨rfl, rfl⟩

/-! ### Whole calls -/

/-- The question reads, has the node build a transaction, or turns to the signers. -/
def IsHarmless (question : Question) : Prop :=
  IsReading question ∨ IsBuilding question ∨ IsSigning question

theorem asks_harmless (payer : Payer) (order : Order) (now : Int64) :
    (signOrder payer order now).run.Asks IsHarmless := by
  rw [run_signOrder]
  refine .ask _ _ (.inl trivial) fun reply => ?_
  rcases reply with failure | _ | id
  · exact .done _
  · exact Action.asks_bind (Action.asks_memory (.inl trivial)) fun memory =>
      (asks_pay payer order memory.ring now).mono fun _ => .inr
  · exact .done _

/-- How a call that signs ends, and where. -/
abbrev called (answer : (question : Question) → State → Option question.Answer × State)
    (payer : Payer) (order : Order) (now : Int64) (state : State) :
    Outcome (Except Error String) × State :=
  (signOrder payer order now).run.run answer state

/-- What a call that signs asks and is told. -/
abbrev spoken (answer : (question : Question) → State → Option question.Answer × State)
    (payer : Payer) (order : Order) (now : Int64) (state : State) : List Exchange :=
  (signOrder payer order now).run.exchanges answer state

/--
Whatever the order, the signers and the surroundings are: a call that signs asks only to read, to
have a transaction built and to have it signed, so that nothing changes which these questions leave
alone. It only reads, in the same way whoever signs, when the order is on record, when there is no
block to refer to or when the order cannot be paid. One report of blame is made, with the data of the
order, when the service names nodes and there is a reporter, and none otherwise. What the service
said is what the call fails with, whatever becomes of the report.
-/
theorem failed_signing_is_harmless
    (answer : (question : Question) → State → Option question.Answer × State)
    (payer : Payer) (order : Order) (now : Int64) (state : State) :
    (∀ event ∈ spoken answer payer order now state, IsHarmless event.question) ∧
    (∀ {View : Type} (view : State → View),
      (∀ question between, IsHarmless question →
        view (answer question between).2 = view between) →
      view (called answer payer order now state).2 = view state) ∧
    (IsHeld order (spoken answer payer order now state) ∨ Unsignable payer.tokens order →
      (∀ event ∈ spoken answer payer order now state, IsReading event.question) ∧
      (∀ payload, (called answer payer order now state).1 = .finished (.ok payload) →
        payload = "") ∧
      ∀ signers,
        called answer ⟨payer.tokens, signers⟩ order now state =
          called answer payer order now state ∧
        spoken answer ⟨payer.tokens, signers⟩ order now state =
          spoken answer payer order now state) ∧
    (∀ blame, Blamed payer order (spoken answer payer order now state) blame →
      reports (spoken answer payer order now state) =
        [.reportBlame blame order.height order.memo order.coins order.vault]) ∧
    ((∀ blame, ¬ Blamed payer order (spoken answer payer order now state) blame) →
      reports (spoken answer payer order now state) = []) ∧
    ∀ hash blame,
      ⟨.remoteSign hash .secp256k1 order.vault, some (.error (.keysignBlame blame))⟩ ∈
        spoken answer payer order now state →
      (∀ event ∈ spoken answer payer order now state, event.reply.isSome) →
      (called answer payer order now state).1 = .finished (.error (.keysignBlame blame)) := by
  have asks := asks_harmless payer order now
  have courses : Courses payer order (spoken answer payer order now state)
      (called answer payer order now state).1 := follows_signOrder state
  refine ⟨fun event => asks.exchanged, ?_, signOrder_of_held answer payer order now state,
    fun blame => courses.reports_of_blamed, courses.reports_of_innocent,
    fun hash blame => courses.ends_blamed⟩
  intro View view kept
  have begun : (fun between => view between = view state) state := rfl
  exact asks.keeps (fun question between harmless same =>
    (kept question between harmless).trans same) begun

def lateNode : Blame := ⟨"timeout", ["node"]⟩

/-- The signing service names a node to blame, and takes the report of that. -/
def blamingAnswer : (question : Question) → Memory → Option question.Answer × Memory
  | .remoteSign _ _ _, memory => (some (.error (.keysignBlame lateNode)), memory)
  | .reportBlame _ _ _ _ _, memory => (some (.ok ""), memory)
  | question, memory => knownAnswer question memory

example : reports (spoken blamingAnswer ⟨[], ⟨none, true, true⟩⟩ knownOrder 1738705583123
    ⟨[knownBlock], 0, none, true, 0⟩) =
      [.reportBlame lateNode 1 "OUT:1" knownOrder.coins knownVault] := by
  decide +kernel

end Payment
end TronGateway
