import Mathlib.Logic.Relation
import TronGateway.Proofs.Payment.Questions
import TronGateway.Proofs.PaymentRecord
set_option autoImplicit false

/-!
# Payments of one order side by side

Calls that sign and broadcast one order run side by side over one store, one question at a time. A
call that signs reads the record first and writes nothing; a call that broadcasts writes the record
last. So the record only ever names a payload that was sent.
-/

namespace TronGateway.Payment

/-- The calls for one order that are under way, and what has come of those before. -/
structure Calls where
  store : Store
  signing : List Call
  /-- The payloads that calls which sign have returned. -/
  signed : List String
  broadcasting : List Call
  /-- The payloads that the node has taken. -/
  sent : List String

def Calls.opening (store : Store) : Calls := ⟨store, [], [], [], []⟩

def Calls.record (calls : Calls) (fingerprint : String) : Option String :=
  calls.store.get? (PaymentRecord.orderKey fingerprint)

/-- A reply from surroundings in which the store works, the node takes every payload and names it,
and anything else may be answered. -/
def Replies (name : String → String) (store : Store) :
    (question : Question) → question.Answer → Store → Prop
  | .store call, reply, after => reply = .ok (store.answer call).1 ∧ after = (store.answer call).2
  | .node (.broadcast payload), reply, after =>
    after = store ∧ ∃ taken, reply = .ok taken ∧ broadcastId taken payload = .ok (name payload)
  | _, _, after => after = store

/-- The payload of a call that has come to its end, if there is one. -/
def payloads : Except Error String → List String
  | .ok payload => if payload = "" then [] else [payload]
  | .error _ => []

/-- A call begins with its first question, or one that is under way asks its next one. Whether a
call may begin to sign can depend on the others. -/
inductive Step (fingerprint : String) (name : String → String) (admits : Calls → Prop) :
    Calls → Calls → Prop where
  | beginSigning {calls : Calls} {payer : Payer} {order : Order} {now : Int64} {question : Question}
      {next : question.Answer → Call} {reply : question.Answer} {store : Store}
      (admitted : admits calls) (same : order.fingerprint = fingerprint)
      (first : (signOrder payer order now).run = .ask question next)
      (replied : Replies name calls.store question reply store) :
      Step fingerprint name admits calls
        { calls with store, signing := next reply :: calls.signing }
  | sign {calls : Calls} {before behind : List Call} {question : Question}
      {next : question.Answer → Call} {reply : question.Answer} {store : Store}
      (waiting : calls.signing = before ++ .ask question next :: behind)
      (replied : Replies name calls.store question reply store) :
      Step fingerprint name admits calls
        { calls with store, signing := before ++ next reply :: behind }
  | endSigning {calls : Calls} {before behind : List Call} {result : Except Error String}
      (ended : calls.signing = before ++ .done result :: behind) :
      Step fingerprint name admits calls
        { calls with signing := before ++ behind, signed := payloads result ++ calls.signed }
  | abortSigning {calls : Calls} {before behind : List Call} {overflow : Overflow}
      (ended : calls.signing = before ++ .abort overflow :: behind) :
      Step fingerprint name admits calls { calls with signing := before ++ behind }
  | beginBroadcast {calls : Calls} {order : Order} {payload : String} {question : Question}
      {next : question.Answer → Call} {reply : question.Answer} {store : Store}
      (same : order.fingerprint = fingerprint) (signed : payload ∈ calls.signed)
      (first : (Payment.broadcast order payload).run = .ask question next)
      (replied : Replies name calls.store question reply store) :
      Step fingerprint name admits calls
        { calls with
          store
          broadcasting := next reply :: calls.broadcasting
          sent := payload :: calls.sent }
  | broadcast {calls : Calls} {before behind : List Call} {question : Question}
      {next : question.Answer → Call} {reply : question.Answer} {store : Store}
      (waiting : calls.broadcasting = before ++ .ask question next :: behind)
      (replied : Replies name calls.store question reply store) :
      Step fingerprint name admits calls
        { calls with store, broadcasting := before ++ next reply :: behind }

abbrev Reach (fingerprint : String) (name : String → String) (admits : Calls → Prop) :
    Calls → Calls → Prop :=
  Relation.ReflTransGen (Step fingerprint name admits)

def Calls.Anytime (_ : Calls) : Prop := True

/-- While the order is not on record, a call begins to sign only when every earlier one has come to
an end without a payload. -/
def Calls.OneByOne (fingerprint : String) (calls : Calls) : Prop :=
  calls.record fingerprint = none → calls.signing = [] ∧ calls.signed = []

def recording (order : Order) (id : String) : Call :=
  .ask (.store (.put (PaymentRecord.orderKey order.fingerprint) id)) fun
    | .error _ => .done (.ok id)
    | .ok _ => .ask (.store (.put (PaymentRecord.vaultKey order.vault) id)) fun _ => .done (.ok id)

theorem run_broadcast (order : Order) (payload : String) :
    (broadcast order payload).run = .ask (.node (.broadcast payload)) fun reply =>
      match reply with
      | .error failure => .done (.error failure)
      | .ok taken =>
        match broadcastId taken payload with
        | .error failure => .done (.error failure)
        | .ok id => recording order id := by
  change Program.ask _ _ = _
  refine congrArg (Program.ask _) (funext fun reply => ?_)
  cases reply with
  | error failure => rfl
  | ok taken =>
      change ExceptT.run (liftM (broadcastId taken payload) >>= _ : Action String) = _
      dsimp only
      cases broadcastId taken payload with
      | error failure => rfl
      | ok id =>
          change Program.ask _ _ = Program.ask _ _
          refine congrArg (Program.ask _) (funext fun written => ?_)
          cases written with
          | error failure => rfl
          | ok done => rfl

/-- The question touches neither the store nor a payload that the node is to take. -/
def IsQuiet : Question → Prop
  | .store _ => False
  | .node (.broadcast _) => False
  | _ => True

theorem isQuiet_of_isBuilding {question : Question} (building : IsBuilding question) :
    IsQuiet question := by
  cases question with
  | node call =>
      cases call with
      | createTransaction owner recipient amount memo => exact trivial
      | triggerContract owner contract method parameter feeLimit => exact trivial
      | _ => cases building
  | _ => cases building

theorem isQuiet_of_isSigning {question : Question} (signing : IsSigning question) :
    IsQuiet question := by
  cases question with
  | remoteSign hash algorithm key => exact trivial
  | reportBlame blame height memo coins vault => exact trivial
  | _ => cases signing

theorem asks_signUnpaid (payer : Payer) (order : Order) (ring : List RefBlock) (now : Int64) :
    (signUnpaid payer order ring now).run.Asks IsQuiet := by
  rw [signUnpaid_eq_prepare]
  refine Action.asks_bind ((asks_prepare _ _ _).mono fun _ => isQuiet_of_isBuilding) fun shell => ?_
  exact (asks_finish _ _ _ _ _).mono fun _ => isQuiet_of_isSigning

theorem asks_afterRecord (payer : Payer) (order : Order) (now : Int64)
    (reply : Except Error (Option String)) : (afterRecord payer order now reply).Asks IsQuiet := by
  rcases reply with failure | _ | id
  · exact .done _
  · exact Action.asks_bind (.ask _ _ trivial fun _ => .done _) fun memory =>
      Action.asks_bind (asks_signUnpaid _ _ _ _) fun tx => Action.asks_pure _
  · exact .done _

/-! ### What calls do to the record -/

variable {fingerprint : String} {name : String → String} {admits : Calls → Prop}
  {calls later : Calls}

/-- The question writes the order under the name of a payload that was sent, or writes a vault. -/
def Writes (fingerprint : String) (name : String → String) (sent : List String)
    (question : Question) : Prop :=
  (∃ payload ∈ sent,
      question = .store (.put (PaymentRecord.orderKey fingerprint) (name payload))) ∨
    ∃ vault id, question = .store (.put (PaymentRecord.vaultKey vault) id)

theorem asks_recording {order : Order} {sent : List String} {payload : String}
    (same : order.fingerprint = fingerprint) (member : payload ∈ sent) :
    (recording order (name payload)).Asks (Writes fingerprint name sent) := by
  refine .ask _ _ (.inl ⟨payload, member, by rw [same]⟩) fun reply => ?_
  cases reply with
  | error failure => exact .done _
  | ok written => exact .ask _ _ (.inr ⟨_, _, rfl⟩) fun _ => .done _

theorem Replies.store_of_quiet {store after : Store} {question : Question}
    {reply : question.Answer} (replied : Replies name store question reply after)
    (quiet : IsQuiet question) : after = store := by
  cases question with
  | store call => cases quiet
  | node call =>
      cases call with
      | broadcast payload => cases quiet
      | _ => exact replied
  | _ => exact replied

theorem Replies.record_of_writes {store after : Store} {question : Question}
    {reply : question.Answer} {sent : List String}
    (replied : Replies name store question reply after)
    (writes : Writes fingerprint name sent question) :
    after.get? (PaymentRecord.orderKey fingerprint) =
        store.get? (PaymentRecord.orderKey fingerprint) ∨
      ∃ payload ∈ sent,
        after.get? (PaymentRecord.orderKey fingerprint) = some (name payload) := by
  rcases writes with ⟨payload, member, rfl⟩ | ⟨vault, id, rfl⟩
  · obtain ⟨-, rfl⟩ := replied
    exact .inr ⟨payload, member, Store.get?_put _ _ _⟩
  · obtain ⟨-, rfl⟩ := replied
    exact .inl (Store.get?_put_other _ (PaymentRecord.orderKey_ne_vaultKey _ _) _)

/-- What the calls under way can still ask, and where the payloads come from. -/
structure Sound (fingerprint : String) (name : String → String) (calls : Calls) : Prop where
  signing : ∀ call ∈ calls.signing, call.Asks IsQuiet
  broadcasting : ∀ call ∈ calls.broadcasting, call.Asks (Writes fingerprint name calls.sent)
  sent : ∀ payload ∈ calls.sent, payload ∈ calls.signed

theorem sound_opening (store : Store) : Sound fingerprint name (.opening store) where
  signing := List.forall_mem_nil _
  broadcasting := List.forall_mem_nil _
  sent := List.forall_mem_nil _

theorem forall_mem_replace {α : Type} {holds : α → Prop} {before behind : List α} {old new : α}
    (all : ∀ value ∈ before ++ old :: behind, holds value) (fresh : holds new) :
    ∀ value ∈ before ++ new :: behind, holds value := by
  rw [List.forall_mem_append, List.forall_mem_cons] at all ⊢
  exact ⟨all.1, fresh, all.2.2⟩

theorem forall_mem_remove {α : Type} {holds : α → Prop} {before behind : List α} {old : α}
    (all : ∀ value ∈ before ++ old :: behind, holds value) :
    ∀ value ∈ before ++ behind, holds value := by
  rw [List.forall_mem_append, List.forall_mem_cons] at all
  rw [List.forall_mem_append]
  exact ⟨all.1, all.2.2⟩

/-- A step keeps the calls sound, keeps what was sent, and leaves the record or puts the name of a
payload there that was sent. -/
theorem Sound.step (sound : Sound fingerprint name calls)
    (step : Step fingerprint name admits calls later) :
    Sound fingerprint name later ∧ (∀ payload ∈ calls.sent, payload ∈ later.sent) ∧
      (later.record fingerprint = calls.record fingerprint ∨
        ∃ payload ∈ later.sent, later.record fingerprint = some (name payload)) := by
  cases step with
  | beginSigning admitted same first replied =>
      rw [run_signOrder] at first
      cases first
      obtain ⟨-, rfl⟩ := replied
      exact ⟨⟨List.forall_mem_cons.mpr ⟨asks_afterRecord _ _ _ _, sound.signing⟩,
        sound.broadcasting, sound.sent⟩, fun _ member => member, .inl rfl⟩
  | sign waiting replied =>
      have asks := sound.signing _ (waiting ▸ List.mem_append_right _ List.mem_cons_self)
      obtain ⟨quiet, rest⟩ := asks.of_ask
      have unchanged := replied.store_of_quiet quiet
      exact ⟨⟨forall_mem_replace (waiting ▸ sound.signing) (rest _), sound.broadcasting,
        sound.sent⟩, fun _ member => member, .inl (by unfold Calls.record; rw [unchanged])⟩
  | endSigning ended =>
      exact ⟨⟨forall_mem_remove (ended ▸ sound.signing), sound.broadcasting,
        fun payload member => List.mem_append_right _ (sound.sent payload member)⟩,
        fun _ member => member, .inl rfl⟩
  | abortSigning ended =>
      exact ⟨⟨forall_mem_remove (ended ▸ sound.signing), sound.broadcasting, sound.sent⟩,
        fun _ member => member, .inl rfl⟩
  | beginBroadcast same signed first replied =>
      rw [run_broadcast] at first
      cases first
      obtain ⟨rfl, taken, rfl, named⟩ := replied
      -- One more payload was sent, and what the other calls may write has grown with it.
      refine ⟨⟨sound.signing, List.forall_mem_cons.mpr ⟨?_, fun call member => ?_⟩,
        List.forall_mem_cons.mpr ⟨signed, sound.sent⟩⟩,
        fun _ member => List.mem_cons_of_mem _ member, .inl rfl⟩
      · dsimp only
        rw [named]
        exact asks_recording same List.mem_cons_self
      · refine (sound.broadcasting call member).mono fun question writes => ?_
        exact writes.imp_left fun ⟨payload, known, put⟩ =>
          ⟨payload, List.mem_cons_of_mem _ known, put⟩
  | broadcast waiting replied =>
      have asks := sound.broadcasting _ (waiting ▸ List.mem_append_right _ List.mem_cons_self)
      obtain ⟨writes, rest⟩ := asks.of_ask
      exact ⟨⟨sound.signing, forall_mem_replace (waiting ▸ sound.broadcasting) (rest _),
        sound.sent⟩, fun _ member => member, replied.record_of_writes writes⟩

theorem Sound.reach (sound : Sound fingerprint name calls)
    (reach : Reach fingerprint name admits calls later) :
    Sound fingerprint name later ∧
      (later.record fingerprint = calls.record fingerprint ∨
        ∃ payload ∈ later.sent, later.record fingerprint = some (name payload)) := by
  induction reach with
  | refl => exact ⟨sound, .inl rfl⟩
  | tail _ step ih =>
      obtain ⟨between, kept⟩ := ih
      obtain ⟨after, grown, last⟩ := between.step step
      refine ⟨after, ?_⟩
      rcases last with same | replaced
      · rw [same]
        exact kept.imp_right fun ⟨payload, member, named⟩ => ⟨payload, grown payload member, named⟩
      · exact .inr replaced

theorem isSome_record_of_reach (sound : Sound fingerprint name calls)
    (reach : Reach fingerprint name admits calls later)
    (recorded : (calls.record fingerprint).isSome) : (later.record fingerprint).isSome := by
  obtain ⟨-, same | ⟨payload, -, named⟩⟩ := sound.reach reach
  · rwa [same]
  · rw [named]
    rfl

theorem begins_ended {payer : Payer} {order : Order} {now : Int64} {question : Question}
    {next : question.Answer → Call} {reply : question.Answer} {store : Store}
    (same : order.fingerprint = fingerprint)
    (first : (signOrder payer order now).run = .ask question next)
    (replied : Replies name calls.store question reply store)
    (recorded : (calls.record fingerprint).isSome) : next reply = .done (.ok "") := by
  rw [run_signOrder] at first
  cases first
  obtain ⟨rfl, -⟩ := replied
  obtain ⟨id, known⟩ := Option.isSome_iff_exists.mp recorded
  unfold Calls.record at known
  rw [← same] at known
  change afterRecord payer order now (.ok (calls.store.get? _)) = _
  rw [known]
  rfl

/-! ### Runs of calls -/

theorem replies_of_quiet {store : Store} {question : Question} (quiet : IsQuiet question)
    (reply : question.Answer) : Replies name store question reply store := by
  cases question with
  | store call => cases quiet
  | node call =>
      cases call with
      | broadcast payload => cases quiet
      | _ => exact rfl
  | _ => exact rfl

theorem replies_put (store : Store) (key value : String) :
    Replies name store (.store (.put key value)) (Except.ok ()) (store.put key value) :=
  ⟨rfl, rfl⟩

theorem step_first {store after : Store} {signing others : List Call} {signed sent : List String}
    {question : Question} {next : question.Answer → Call} {reply : question.Answer}
    (replied : Replies name store question reply after) :
    Step fingerprint name admits ⟨store, signing, signed, .ask question next :: others, sent⟩
      ⟨after, signing, signed, next reply :: others, sent⟩ :=
  @Step.broadcast fingerprint name admits
    ⟨store, signing, signed, .ask question next :: others, sent⟩ [] others question next reply after
    rfl replied

theorem reach_ended {State : Type}
    {answer : (question : Question) → State → Option question.Answer × State}
    {call : Call} {state after : State} {result : Except Error String} {before behind : List Call}
    (quiet : call.Asks IsQuiet) (ends : call.Ends answer state result after)
    (waiting : calls.signing = before ++ call :: behind) :
    Reach fingerprint name admits calls
      { calls with signing := before ++ .done result :: behind } := by
  -- Along the questions of the call: each is a step, and none of them moves the store.
  induction quiet generalizing calls state with
  | done value =>
      obtain ⟨rfl, -⟩ := Program.ends_done.mp ends
      rw [← waiting]
  | abort overflow => cases ends
  | ask question next permitted rest ih =>
      unfold Program.Ends at ends
      rw [Program.run] at ends
      rcases answered : answer question state with ⟨_ | reply, between⟩
      · rw [answered] at ends
        cases ends
      · rw [answered] at ends
        have asked : Step fingerprint name admits calls
            { calls with signing := before ++ next reply :: behind } :=
          .sign waiting (replies_of_quiet permitted reply)
        exact .head asked (ih reply ends rfl)

theorem step_unpaid {payer : Payer} {order : Order} {now : Int64} (admitted : admits calls)
    (unpaid : calls.record order.fingerprint = none) :
    Step order.fingerprint name admits calls
      { calls with signing := afterRecord payer order now (.ok none) :: calls.signing } := by
  refine .beginSigning admitted rfl (run_signOrder payer order now) ⟨?_, rfl⟩
  exact congrArg Except.ok unpaid.symm

theorem step_paid {payer : Payer} {order : Order} {now : Int64} {id : String}
    (admitted : admits calls) (paid : calls.record order.fingerprint = some id) :
    Step order.fingerprint name admits calls
      { calls with signing := .done (.ok "") :: calls.signing } := by
  change Step _ _ _ _
    { calls with signing := afterRecord payer order now (.ok (some id)) :: calls.signing }
  refine .beginSigning admitted rfl (run_signOrder payer order now) ⟨?_, rfl⟩
  exact congrArg Except.ok paid.symm

theorem reach_signed {State : Type}
    {answer : (question : Question) → State → Option question.Answer × State}
    {payer : Payer} {order : Order} {now : Int64} {tx : Transaction} {memory : Memory}
    {state known after : State} {before behind : List Call}
    (remembered : answer .memory state = (some memory, known))
    (gives : Action.Gives answer (signUnpaid payer order memory.ring now) known tx after)
    (some : tx.toText ≠ "")
    (waiting : calls.signing = before ++ afterRecord payer order now (.ok none) :: behind) :
    Reach fingerprint name admits calls
      { calls with signing := before ++ behind, signed := tx.toText :: calls.signed } := by
  have ends : (afterRecord payer order now (.ok none)).Ends answer state (.ok tx.toText) after :=
    Action.gives_bind.mpr ⟨_, _, Action.gives_memory.mpr remembered,
      Action.gives_bind.mpr ⟨_, _, gives, Action.gives_pure.mpr ⟨rfl, rfl⟩⟩⟩
  refine .tail (reach_ended (asks_afterRecord _ _ _ _) ends waiting) ?_
  have ended : Step fingerprint name admits
      { calls with signing := before ++ .done (.ok tx.toText) :: behind }
      { calls with
        signing := before ++ behind
        signed := payloads (.ok tx.toText) ++ calls.signed } :=
    .endSigning rfl
  rw [payloads, if_neg some] at ended
  exact ended

theorem reach_recorded {order : Order} {payload : String} {taken : BroadcastReply}
    (signed : payload ∈ calls.signed)
    (named : broadcastId taken payload = .ok (name payload)) :
    Reach order.fingerprint name admits calls
      { calls with
        store := (calls.store.put (PaymentRecord.orderKey order.fingerprint) (name payload)).put
          (PaymentRecord.vaultKey order.vault) (name payload)
        broadcasting := .done (.ok (name payload)) :: calls.broadcasting
        sent := payload :: calls.sent } := by
  have begun : Step order.fingerprint name admits calls
      { calls with
        broadcasting := recording order (name payload) :: calls.broadcasting
        sent := payload :: calls.sent } := by
    have step : Step order.fingerprint name admits calls _ :=
      .beginBroadcast rfl signed (run_broadcast order payload) ⟨rfl, taken, rfl, named⟩
    dsimp only at step
    rw [named] at step
    exact step
  exact .head begun
    (.head (step_first (replies_put _ _ _)) (.single (step_first (replies_put _ _ _))))

end TronGateway.Payment
