import TronGateway.Proofs.Interleaving.Step
import TronGateway.Proofs.Payment
import TronGateway.Proofs.Payment.Success
import TronGateway.Proofs.Transaction.Text
set_option autoImplicit false

/-!
# How often an order is paid

Nothing keeps two calls that both find the order unpaid from paying it twice, and the later payment
then takes the place of the first one in the record. Calls that begin to sign an unpaid order only
after the earlier ones have failed pay it once.
-/

namespace TronGateway.Payment

variable {fingerprint : String} {name : String → String} {admits : Calls → Prop}
  {calls later : Calls}

/-- At most one attempt to pay the order is under way, and none once it is on record. -/
structure OneAttempt (fingerprint : String) (name : String → String) (calls : Calls) : Prop where
  sound : Sound fingerprint name calls
  unrecorded : calls.record fingerprint = none →
    calls.signing.length + calls.signed.length ≤ 1
  recorded : ∀ id, calls.record fingerprint = some id →
    (∀ call ∈ calls.signing, call = .done (.ok "")) ∧
      (calls.signed = [] ∨ ∃ payload, calls.signed = [payload] ∧ name payload = id)

theorem oneAttempt_opening (store : Store) : OneAttempt fingerprint name (.opening store) where
  sound := sound_opening store
  unrecorded _ := Nat.zero_le 1
  recorded _ _ := ⟨List.forall_mem_nil _, .inl rfl⟩

theorem length_payloads (result : Except Error String) : (payloads result).length ≤ 1 := by
  cases result with
  | error failure => exact Nat.zero_le 1
  | ok payload =>
      by_cases empty : payload = ""
      · rw [payloads, if_pos empty]
        exact Nat.zero_le 1
      · rw [payloads, if_neg empty]
        exact Nat.le_refl 1

theorem OneAttempt.signed_eq (one : OneAttempt fingerprint name calls) {payload : String}
    (member : payload ∈ calls.signed) :
    calls.signed = [payload] ∧
      ((calls.record fingerprint = none ∧ calls.signing = []) ∨
        calls.record fingerprint = some (name payload)) := by
  cases known : calls.record fingerprint with
  | none =>
      have length := one.unrecorded known
      have positive := List.length_pos_of_mem member
      obtain ⟨only, same⟩ := List.length_eq_one_iff.mp (by omega : calls.signed.length = 1)
      rw [same, List.mem_singleton] at member
      exact ⟨by rw [same, member], .inl ⟨rfl, List.length_eq_zero_iff.mp (by omega)⟩⟩
  | some id =>
      rcases (one.recorded id known).2 with none | ⟨only, same, named⟩
      · rw [none] at member
        cases member
      · rw [same, List.mem_singleton] at member
        rw [member, same, named]
        exact ⟨rfl, .inr rfl⟩

theorem OneAttempt.step (oneByOne : ∀ calls, admits calls → calls.OneByOne fingerprint)
    (one : OneAttempt fingerprint name calls) (step : Step fingerprint name admits calls later) :
    OneAttempt fingerprint name later ∧
      ∀ id, calls.record fingerprint = some id → later.record fingerprint = some id := by
  have sound := (one.sound.step step).1
  cases step with
  | beginSigning admitted same first replied =>
      have spent := begins_ended same first replied
      rw [run_signOrder] at first
      cases first
      obtain ⟨-, rfl⟩ := replied
      refine ⟨⟨sound, fun known => ?_, fun id known => ?_⟩, fun id known => known⟩
      -- The attempt that begins here is the only one.
      · obtain ⟨noCall, noPayload⟩ := oneByOne _ admitted known
        rw [noCall, noPayload]
        exact Nat.le_refl 1
      · obtain ⟨others, payload⟩ := one.recorded id known
        exact ⟨List.forall_mem_cons.mpr
          ⟨spent (Option.isSome_iff_exists.mpr ⟨id, known⟩), others⟩, payload⟩
  | @sign before behind question next reply store waiting replied =>
      have member : Program.ask question next ∈ calls.signing :=
        waiting ▸ List.mem_append_right _ List.mem_cons_self
      have unchanged := replied.store_of_quiet (one.sound.signing _ member).of_ask.1
      cases unchanged
      refine ⟨⟨sound, fun known => ?_, fun id known => ?_⟩, fun id known => known⟩
      · have bound := one.unrecorded known
        rw [waiting] at bound
        simpa using bound
      -- Once the order is on record, no call that signs is still waiting.
      · cases (one.recorded id known).1 _ member
  | @endSigning before behind result ended =>
      have member : Program.done result ∈ calls.signing :=
        ended ▸ List.mem_append_right _ List.mem_cons_self
      refine ⟨⟨sound, fun known => ?_, fun id known => ?_⟩, fun id known => known⟩
      · have bound := one.unrecorded known
        have short := length_payloads result
        simp only [ended, List.length_append, List.length_cons] at bound ⊢
        omega
      · obtain ⟨all, payload⟩ := one.recorded id known
        cases all _ member
        exact ⟨forall_mem_remove (ended ▸ all), payload⟩
  | @abortSigning before behind overflow ended =>
      have member : Program.abort overflow ∈ calls.signing :=
        ended ▸ List.mem_append_right _ List.mem_cons_self
      refine ⟨⟨sound, fun known => ?_, fun id known => ?_⟩, fun id known => known⟩
      · have bound := one.unrecorded known
        simp only [ended, List.length_append, List.length_cons] at bound ⊢
        omega
      · cases (one.recorded id known).1 _ member
  | beginBroadcast same signed first replied =>
      rw [run_broadcast] at first
      cases first
      obtain ⟨rfl, -⟩ := replied
      exact ⟨⟨sound, one.unrecorded, one.recorded⟩, fun id known => known⟩
  | @broadcast before behind question next reply store waiting replied =>
      have member : Program.ask question next ∈ calls.broadcasting :=
        waiting ▸ List.mem_append_right _ List.mem_cons_self
      have writes := (one.sound.broadcasting _ member).of_ask.1
      rcases replied.record_of_writes writes with unchanged | ⟨payload, sent, named⟩
      · exact ⟨⟨sound, fun known => one.unrecorded (unchanged.symm.trans known),
          fun id known => one.recorded id (unchanged.symm.trans known)⟩,
          fun id known => unchanged.trans known⟩
      -- The name that is written is that of the only payload, so a record keeps its name.
      · obtain ⟨only, before⟩ := one.signed_eq (one.sound.sent payload sent)
        refine ⟨⟨sound, fun known => ?_, fun id known => ?_⟩, fun id known => ?_⟩
        · cases named.symm.trans known
        · cases named.symm.trans known
          refine ⟨?_, .inr ⟨payload, only, rfl⟩⟩
          rcases before with ⟨-, noCall⟩ | known
          · exact noCall ▸ List.forall_mem_nil _
          · exact (one.recorded _ known).1
        · rcases before with ⟨none, -⟩ | same
          · cases none.symm.trans known
          · cases same.symm.trans known
            exact named

theorem OneAttempt.reach (oneByOne : ∀ calls, admits calls → calls.OneByOne fingerprint)
    (one : OneAttempt fingerprint name calls) (reach : Reach fingerprint name admits calls later) :
    OneAttempt fingerprint name later ∧
      ∀ id, calls.record fingerprint = some id → later.record fingerprint = some id := by
  induction reach with
  | refl => exact ⟨one, fun id known => known⟩
  | tail _ step ih =>
      obtain ⟨between, kept⟩ := ih
      obtain ⟨after, last⟩ := between.step oneByOne step
      exact ⟨after, fun id known => last id (kept id known)⟩

theorem isExact_sharedPayment (time : Int64) (hash : List UInt8) :
    (sharedPayment time hash).IsExact := by
  intro contract member
  rw [List.mem_singleton.mp member]
  change Value.IsExact (121 + 1) (.object [("amount", .integer 6)])
  rw [Value.IsExact, Value.areExactMembers_iff, List.forall_mem_singleton]
  refine ⟨List.pairwise_singleton _ _, ?_⟩
  rw [Value.IsExact]
  decide

def payloadName (payload : String) : String :=
  ((Transaction.parse payload).map Transaction.id).getD ""

theorem payloadName_toText {tx : Transaction} (exact : tx.IsExact) :
    payloadName tx.toText = tx.id := by
  unfold payloadName
  rw [Transaction.parse_toText exact]
  rfl

theorem broadcastId_toText {tx : Transaction} (exact : tx.IsExact) :
    broadcastId ⟨true, "", none, none⟩ tx.toText = .ok (payloadName tx.toText) := by
  unfold broadcastId
  rw [if_pos rfl, payloadName_toText exact, Transaction.parse_toText exact]

theorem payments_differ :
    (sharedPayment firstTime (BigEndian.ofNat 32 firstHash)).id ≠
      (sharedPayment secondTime (BigEndian.ofNat 32 secondHash)).id := by
  intro same
  change Hex.encode (Sha256.digest (boundBytes firstTime)) =
    Hex.encode (Sha256.digest (boundBytes secondTime)) at same
  rw [Hex.encode_inj, digest_first, digest_second] at same
  exact absurd same (by decide)

def firstPayment : Transaction := sharedPayment firstTime (BigEndian.ofNat 32 firstHash)

def secondPayment : Transaction := sharedPayment secondTime (BigEndian.ofNat 32 secondHash)

def unpaidCall (now : Int64) : Call := afterRecord sharedPayer sharedOrder now (.ok none)

theorem reach_payment {now : Int64} {tx : Transaction} {before behind : List Call}
    (gives : Action.Gives sharedAnswer (signUnpaid sharedPayer sharedOrder [sharedBlock] now)
      sharedMemory tx sharedMemory)
    (waiting : calls.signing = before ++ unpaidCall now :: behind) :
    Reach fingerprint name admits calls
      { calls with signing := before ++ behind, signed := tx.toText :: calls.signed } := by
  have remembered : sharedAnswer .memory sharedMemory = (some sharedMemory, sharedMemory) := rfl
  exact reach_signed remembered gives (toText_ne_empty tx) waiting

def paidStore (store : Store) (tx : Transaction) : Store :=
  (store.put (PaymentRecord.orderKey sharedOrder.fingerprint) (payloadName tx.toText)).put
    (PaymentRecord.vaultKey sharedOrder.vault) (payloadName tx.toText)

/-! ### How often the order is paid -/

/-- Once the order is on record it stays there, under the name of a payload that was signed and
sent, and every call that begins to sign it ends without another question. When a call begins to
sign an unpaid order only after the earlier ones have failed, one payload at most is sent and the
record does not change any more. -/
theorem paid_once_one_by_one {store : Store}
    (reached : Reach fingerprint name admits (.opening store) calls)
    (continued : Reach fingerprint name admits calls later) :
    (∀ id, calls.record fingerprint = some id →
      (later.record fingerprint = some id ∨ ∃ payload ∈ later.sent, payload ∈ later.signed ∧
        later.record fingerprint = some (name payload)) ∧
      ∀ (payer : Payer) (order : Order) (now : Int64) (question : Question)
        (next : question.Answer → Call) (reply : question.Answer) (after : Store),
        order.fingerprint = fingerprint → (signOrder payer order now).run = .ask question next →
        Replies name later.store question reply after → next reply = .done (.ok "")) ∧
    ((∀ calls, admits calls → calls.OneByOne fingerprint) →
      (∀ first ∈ later.sent, ∀ second ∈ later.sent, first = second) ∧
      ∀ id, calls.record fingerprint = some id → later.record fingerprint = some id) := by
  have sound : Sound fingerprint name calls := ((sound_opening store).reach reached).1
  obtain ⟨soundLater, kept⟩ := sound.reach continued
  refine ⟨fun id known => ⟨?_, ?_⟩, fun oneByOne => ?_⟩
  · rcases kept with same | ⟨payload, member, named⟩
    · exact .inl (same.trans known)
    · exact .inr ⟨payload, member, soundLater.sent payload member, named⟩
  · intro payer order now question next reply after same first replied
    have recorded := isSome_record_of_reach sound continued
      (Option.isSome_iff_exists.mpr ⟨id, known⟩)
    exact begins_ended same first replied recorded
  · have one := ((oneAttempt_opening store).reach oneByOne reached).1
    obtain ⟨oneLater, stays⟩ := one.reach oneByOne continued
    refine ⟨fun first sent second sentToo => ?_, stays⟩
    have only := (oneLater.signed_eq (soundLater.sent first sent)).1
    have also := soundLater.sent second sentToo
    rw [only, List.mem_singleton] at also
    exact also.symm

theorem sharedOrder_paid_once :
    ∃ calls later : Calls,
      Reach sharedOrder.fingerprint payloadName (Calls.OneByOne sharedOrder.fingerprint)
        (.opening .empty) calls ∧
      Reach sharedOrder.fingerprint payloadName (Calls.OneByOne sharedOrder.fingerprint)
        calls later ∧
      calls.sent = [firstPayment.toText] ∧
      calls.record sharedOrder.fingerprint = some (payloadName firstPayment.toText) ∧
      later.signing = [.done (.ok "")] ∧
      (∀ first ∈ later.sent, ∀ second ∈ later.sent, first = second) ∧
      later.record sharedOrder.fingerprint = some (payloadName firstPayment.toText) := by
  have begun : Reach sharedOrder.fingerprint payloadName
      (Calls.OneByOne sharedOrder.fingerprint) (.opening .empty)
      ⟨.empty, [unpaidCall firstNow], [], [], []⟩ :=
    .single (step_unpaid (fun _ => ⟨rfl, rfl⟩) rfl)
  have signed : Reach sharedOrder.fingerprint payloadName
      (Calls.OneByOne sharedOrder.fingerprint) (.opening .empty)
      ⟨.empty, [], [firstPayment.toText], [], []⟩ :=
    begun.trans (@reach_payment _ _ _ _ _ _ [] [] gives_firstPayment rfl)
  have reached : Reach sharedOrder.fingerprint payloadName
      (Calls.OneByOne sharedOrder.fingerprint) (.opening .empty)
      ⟨paidStore .empty firstPayment, [], [firstPayment.toText],
        [.done (.ok (payloadName firstPayment.toText))], [firstPayment.toText]⟩ :=
    signed.trans
      (reach_recorded List.mem_cons_self (broadcastId_toText (isExact_sharedPayment _ _)))
  have known : (paidStore .empty firstPayment).get?
      (PaymentRecord.orderKey sharedOrder.fingerprint) = some (payloadName firstPayment.toText) :=
    PaymentRecord.get?_recorded _ _ _ _
  have continued : Reach sharedOrder.fingerprint payloadName
      (Calls.OneByOne sharedOrder.fingerprint)
      ⟨paidStore .empty firstPayment, [], [firstPayment.toText],
        [.done (.ok (payloadName firstPayment.toText))], [firstPayment.toText]⟩
      ⟨paidStore .empty firstPayment, [.done (.ok "")], [firstPayment.toText],
        [.done (.ok (payloadName firstPayment.toText))], [firstPayment.toText]⟩ :=
    .single (@step_paid _ _ _ sharedPayer sharedOrder secondNow _
      (fun none => nomatch known.symm.trans none) known)
  obtain ⟨-, once⟩ := paid_once_one_by_one reached continued
  obtain ⟨same, stays⟩ := once fun _ oneByOne => oneByOne
  exact ⟨_, _, reached, continued, rfl, known, rfl, same, stays _ known⟩

/-- Two calls find the order unpaid, and both of their payments are sent. The second payment takes
the place of the first one in the record. -/
theorem overlapping_calls_pay_twice :
    ∃ middle last : Calls,
      Reach sharedOrder.fingerprint payloadName Calls.Anytime (.opening .empty) middle ∧
      Reach sharedOrder.fingerprint payloadName Calls.Anytime middle last ∧
      firstPayment.toText ∈ last.sent ∧ secondPayment.toText ∈ last.sent ∧
      firstPayment.toText ≠ secondPayment.toText ∧
      middle.record sharedOrder.fingerprint = some firstPayment.id ∧
      last.record sharedOrder.fingerprint = some secondPayment.id ∧
      firstPayment.id ≠ secondPayment.id := by
  have first := payloadName_toText (isExact_sharedPayment firstTime (BigEndian.ofNat 32 firstHash))
  have second :=
    payloadName_toText (isExact_sharedPayment secondTime (BigEndian.ofNat 32 secondHash))
  have begun : Reach sharedOrder.fingerprint payloadName Calls.Anytime (.opening .empty)
      ⟨.empty, [unpaidCall secondNow, unpaidCall firstNow], [], [], []⟩ :=
    .head (step_unpaid trivial rfl) (.single (step_unpaid trivial rfl))
  have firstSigned : Reach sharedOrder.fingerprint payloadName Calls.Anytime (.opening .empty)
      ⟨.empty, [unpaidCall secondNow], [firstPayment.toText], [], []⟩ :=
    begun.trans (@reach_payment _ _ _ _ _ _ [unpaidCall secondNow] [] gives_firstPayment rfl)
  have bothSigned : Reach sharedOrder.fingerprint payloadName Calls.Anytime (.opening .empty)
      ⟨.empty, [], [secondPayment.toText, firstPayment.toText], [], []⟩ :=
    firstSigned.trans (@reach_payment _ _ _ _ _ _ [] [] gives_secondPayment rfl)
  have middle : Reach sharedOrder.fingerprint payloadName Calls.Anytime (.opening .empty)
      ⟨paidStore .empty firstPayment, [], [secondPayment.toText, firstPayment.toText],
        [.done (.ok (payloadName firstPayment.toText))], [firstPayment.toText]⟩ :=
    bothSigned.trans (reach_recorded (List.mem_cons_of_mem _ List.mem_cons_self)
      (broadcastId_toText (isExact_sharedPayment _ _)))
  have last : Reach sharedOrder.fingerprint payloadName Calls.Anytime
      ⟨paidStore .empty firstPayment, [], [secondPayment.toText, firstPayment.toText],
        [.done (.ok (payloadName firstPayment.toText))], [firstPayment.toText]⟩
      ⟨paidStore (paidStore .empty firstPayment) secondPayment, [], _,
        [.done (.ok (payloadName secondPayment.toText)), _], [secondPayment.toText, _]⟩ :=
    reach_recorded List.mem_cons_self (broadcastId_toText (isExact_sharedPayment _ _))
  refine ⟨_, _, middle, last, List.mem_cons_of_mem _ List.mem_cons_self, List.mem_cons_self,
    fun same => ?_, ?_, ?_, payments_differ⟩
  · have names := congrArg payloadName same
    exact payments_differ (first.symm.trans (names.trans second))
  · exact (PaymentRecord.get?_recorded _ _ _ _).trans (congrArg some first)
  · exact (PaymentRecord.get?_recorded _ _ _ _).trans (congrArg some second)

end TronGateway.Payment
