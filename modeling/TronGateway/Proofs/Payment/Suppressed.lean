import TronGateway.Proofs.Interleaving.Record
import TronGateway.Proofs.Node.Reply
import TronGateway.Proofs.Payment.Backend
set_option autoImplicit false

/-!
# Orders that have been paid

A broadcast that succeeds is recorded, and one that does not changes nothing. So the record tells
the latest payment of each order and of each vault, whatever calls come in between, and an order
that has been paid is not signed again.
-/

namespace TronGateway.Payment

variable {Rest : Type} (backend : Backend Rest)

namespace Backend

/-- The node has been reached with a payload and has replied. -/
def Hears (payload : String) (archive : Archive Rest) (heard : Except Error BroadcastReply)
    (rest : Rest) : Prop :=
  ∃ request reply, (NodeCall.broadcast payload).request backend.service = .ok request ∧
    (backend.exchange request).run archive.rest = (reply, rest) ∧
    Http.receive request BroadcastReply.readJson reply = heard

def submit (payload : String) (archive : Archive Rest) : Except Error BroadcastReply × Rest :=
  ((NodeCall.broadcast payload).via backend.service backend.exchange).run archive.rest

variable {backend} {payload : String} {archive : Archive Rest} {rest : Rest}

theorem submit_of_hears {heard : Except Error BroadcastReply}
    (hears : backend.Hears payload archive heard rest) :
    backend.submit payload archive = (heard >>= NodeCall.checkBroadcast, rest) := by
  obtain ⟨request, reply, asked, exchanged, rfl⟩ := hears
  unfold submit NodeCall.via
  rw [asked]
  change ((NodeCall.broadcast payload).receive backend.service request
      ((backend.exchange request).run archive.rest).1,
    ((backend.exchange request).run archive.rest).2) = _
  rw [exchanged]
  rfl

theorem eq_of_checkBroadcast {reply taken : BroadcastReply}
    (checked : NodeCall.checkBroadcast reply = .ok taken) :
    reply = taken ∧ taken.result = true := by
  unfold NodeCall.checkBroadcast at checked
  cases took : reply.result with
  | true =>
      rw [took] at checked
      cases checked
      exact ⟨rfl, took⟩
  | false =>
      rw [took] at checked
      cases checked

theorem hears_of_submit {taken : BroadcastReply}
    (submitted : backend.submit payload archive = (.ok taken, rest)) :
    backend.Hears payload archive (.ok taken) rest ∧ taken.result = true := by
  cases asked : (NodeCall.broadcast payload).request backend.service with
  | error failure =>
      unfold submit NodeCall.via at submitted
      rw [asked] at submitted
      cases submitted
  | ok request =>
      rcases exchanged : (backend.exchange request).run archive.rest with ⟨reply, after⟩
      have hears : backend.Hears payload archive
          (Http.receive request BroadcastReply.readJson reply) after :=
        ⟨request, reply, asked, exchanged, rfl⟩
      rw [submit_of_hears hears] at submitted
      obtain ⟨checked, rfl⟩ := Prod.mk.inj submitted
      obtain ⟨found, heard, checked⟩ := bind_eq_ok_iff.mp checked
      obtain ⟨rfl, took⟩ := eq_of_checkBroadcast checked
      rw [heard] at hears
      exact ⟨hears, took⟩

theorem submit_empty (archive : Archive Rest) :
    backend.submit "" archive = (.error .json, archive.rest) := rfl

end Backend

def recorded (store : Store) (order : Order) (id : String) : Store :=
  (store.put (PaymentRecord.orderKey order.fingerprint) id).put (PaymentRecord.vaultKey order.vault)
    id

theorem broadcast_eq (order : Order) (payload : String) (archive : Archive Rest) :
    backend.broadcast order payload archive =
      match backend.submit payload archive with
      | (.error failure, rest) => (.finished (.error failure), ⟨archive.store, rest⟩)
      | (.ok taken, rest) =>
        match broadcastId taken payload with
        | .error failure => (.finished (.error failure), ⟨archive.store, rest⟩)
        | .ok id => (.finished (.ok id), ⟨recorded archive.store order id, rest⟩) := by
  have answered : backend.answer (.node (.broadcast payload)) archive =
      (some (backend.submit payload archive).1,
        { archive with rest := (backend.submit payload archive).2 }) := rfl
  unfold Backend.broadcast
  rw [run_broadcast, Program.run, answered]
  rcases backend.submit payload archive with ⟨failure | taken, rest⟩
  · rfl
  · dsimp only
    cases broadcastId taken payload with
    | error failure => rfl
    | ok id => rfl

/-- An id is what the node says, else what the payload says. -/
def Names (taken : BroadcastReply) (payload id : String) : Prop :=
  (taken.txId ≠ "" ∧ id = taken.txId) ∨
    taken.txId = "" ∧ ∃ tx, Transaction.parse payload = some tx ∧ id = tx.id

theorem broadcastId_eq_ok_iff {taken : BroadcastReply} {payload id : String} :
    broadcastId taken payload = .ok id ↔ Names taken payload id := by
  unfold broadcastId Names
  by_cases unnamed : taken.txId = ""
  · rw [if_pos unnamed]
    cases Transaction.parse payload with
    | none => simp [unnamed]
    | some tx => simp [unnamed, eq_comm]
  · rw [if_neg unnamed]
    simp [unnamed, eq_comm]

/-- How broadcasts end, and that only those that succeed change the store. -/
structure Backend.Settles (order : Order) (payload : String) (archive : Archive Rest) : Prop where
  named : ∀ id, (backend.broadcast order payload archive).1 = .finished (.ok id) →
    ∃ taken rest, backend.Hears payload archive (.ok taken) rest ∧ taken.result = true ∧
      Names taken payload id
  taken : ∀ taken rest id, backend.Hears payload archive (.ok taken) rest →
    taken.result = true → Names taken payload id →
    backend.broadcast order payload archive =
      (.finished (.ok id), ⟨recorded archive.store order id, rest⟩)
  rejected : ∀ taken rest, backend.Hears payload archive (.ok taken) rest →
    taken.result = false → backend.broadcast order payload archive =
      (.finished (.error (.broadcast (taken.code.getD "" ++ " " ++
        NodeCall.messageText taken.message))), ⟨archive.store, rest⟩)
  unheard : ∀ failure rest, backend.Hears payload archive (.error failure) rest →
    backend.broadcast order payload archive =
      (.finished (.error failure), ⟨archive.store, rest⟩)
  empty : payload = "" →
    backend.broadcast order payload archive = (.finished (.error .json), archive)
  unrecorded : (∀ id, (backend.broadcast order payload archive).1 ≠ .finished (.ok id)) →
    (backend.broadcast order payload archive).2.store = archive.store

theorem settles (order : Order) (payload : String) (archive : Archive Rest) :
    backend.Settles order payload archive where
  named := by
    intro id ended
    rw [broadcast_eq] at ended
    rcases submitted : backend.submit payload archive with ⟨failure | taken, rest⟩
    · rw [submitted] at ended
      cases ended
    · rw [submitted] at ended
      dsimp only at ended
      cases found : broadcastId taken payload with
      | error failure =>
          rw [found] at ended
          cases ended
      | ok name =>
          rw [found] at ended
          cases ended
          obtain ⟨hears, took⟩ := Backend.hears_of_submit submitted
          exact ⟨taken, rest, hears, took, broadcastId_eq_ok_iff.mp found⟩
  taken := by
    intro taken rest id hears took names
    rw [broadcast_eq, Backend.submit_of_hears hears, ok_bind]
    unfold NodeCall.checkBroadcast
    rw [took, if_pos rfl]
    dsimp only
    rw [broadcastId_eq_ok_iff.mpr names]
  rejected := by
    intro taken rest hears refused
    rw [broadcast_eq, Backend.submit_of_hears hears, ok_bind]
    unfold NodeCall.checkBroadcast
    rw [refused]
    rfl
  unheard := by
    intro failure rest hears
    rw [broadcast_eq, Backend.submit_of_hears hears]
    rfl
  empty := by
    intro same
    rw [same, broadcast_eq, Backend.submit_empty]
  unrecorded := by
    intro never
    rw [broadcast_eq] at never ⊢
    rcases submitted : backend.submit payload archive with ⟨failure | taken, rest⟩
    · rfl
    · rw [submitted] at never
      dsimp only at never ⊢
      cases found : broadcastId taken payload with
      | error failure => rfl
      | ok id =>
          rw [found] at never
          exact absurd rfl (never id)

/-! ### What the record tells -/

/-- The record tells the latest payment of each order and vault, and where there was none what it
told before. -/
structure Tells (before : Store) (history : History Rest) : Prop where
  order : ∀ fingerprint, history.archive.store.get? (PaymentRecord.orderKey fingerprint) =
    (lastId? Order.fingerprint fingerprint history.payments).or
      (before.get? (PaymentRecord.orderKey fingerprint))
  vault : ∀ vault, history.archive.store.get? (PaymentRecord.vaultKey vault) =
    (lastId? Order.vault vault history.payments).or
      (before.get? (PaymentRecord.vaultKey vault))

namespace Tells

variable {before : Store} {history : History Rest}

theorem of_sameRecord (tells : Tells before history) {archive : Archive Rest}
    (same : SameRecord history.archive.store archive.store) :
    Tells before { history with archive } where
  order fingerprint := (same.order fingerprint).trans (tells.order fingerprint)
  vault vault := (same.vault vault).trans (tells.vault vault)

theorem recorded (tells : Tells before history) (order : Order) (id : String) (rest : Rest) :
    Tells before ⟨⟨recorded history.archive.store order id, rest⟩,
      history.payments ++ [⟨order, id⟩]⟩ where
  order fingerprint := by
    refine (PaymentRecord.get?_orderKey_recorded _ _ _ _ _).trans ?_
    rw [tells.order, lastId?_concat]
    by_cases same : order.fingerprint = fingerprint
    · rw [if_pos same, if_pos same, Option.some_or, Option.some_or]
    · rw [if_neg same, if_neg same, Option.none_or]
  vault vault := by
    refine (PaymentRecord.get?_vaultKey_recorded _ _ _ _ _).trans ?_
    rw [tells.vault, lastId?_concat]
    by_cases same : order.vault = vault
    · rw [if_pos same, if_pos same, Option.some_or, Option.some_or]
    · rw [if_neg same, if_neg same, Option.none_or]

theorem perform (tells : Tells before history) (operation : Operation) :
    Tells before (backend.perform history operation) := by
  cases operation with
  | sign payer order now =>
      exact tells.of_sameRecord
        (sameRecord_of_asks backend (asks_signOrder payer order now) history.archive)
  | broadcast order payload =>
      -- The record and the payments grow together, or neither of them does.
      unfold Backend.perform
      dsimp only
      rw [broadcast_eq]
      rcases backend.submit payload history.archive with ⟨failure | taken, rest⟩
      · exact tells.of_sameRecord ⟨fun _ => rfl, fun _ => rfl⟩
      · dsimp only
        cases broadcastId taken payload with
        | error failure => exact tells.of_sameRecord ⟨fun _ => rfl, fun _ => rfl⟩
        | ok id => exact tells.recorded order id rest
  | scan settings tokens state =>
      exact tells.of_sameRecord
        (sameRecord_of_asks backend (asks_scanStep settings tokens state) history.archive)

theorem performAll (operations : List Operation) (archive : Archive Rest) :
    Tells archive.store (backend.performAll operations archive) := by
  have run (history : History Rest) (tells : Tells archive.store history) :
      Tells archive.store (operations.foldl backend.perform history) := by
    induction operations generalizing history with
    | nil => exact tells
    | cons operation rest ih => exact ih _ (tells.perform backend operation)
  exact run ⟨archive, []⟩ ⟨fun _ => rfl, fun _ => rfl⟩

end Tells

/-! ### What the later calls find -/

namespace Backend

def reading {α : Type} (key : String) (value : α) (archive : Archive Rest) :
    Outcome (Except Error α) × Archive Rest :=
  let (access, rest) := (backend.access key).run archive.rest
  (.finished (access.map fun _ => value), { archive with rest })

def latest (vault : String) (archive : Archive Rest) :
    Outcome (Except Error (Option String)) × Archive Rest :=
  (Activity.ofStored (PaymentRecord.latest? vault).run).run backend.answer archive

/-- A call that signs an order with the fingerprint reads the record and asks nothing else. Its
payload is empty. -/
def Suppresses (fingerprint : String) (archive : Archive Rest) : Prop :=
  ∀ (payer : Payer) (order : Order) (now : Int64), order.fingerprint = fingerprint →
    (signOrder payer order now).run.asked backend.answer archive =
      [.store (.get (PaymentRecord.orderKey fingerprint))] ∧
    backend.sign payer order now archive =
      backend.reading (PaymentRecord.orderKey fingerprint) "" archive

theorem suppresses_of_recorded {fingerprint : String} {archive : Archive Rest}
    (known : (archive.store.get? (PaymentRecord.orderKey fingerprint)).isSome) :
    backend.Suppresses fingerprint archive := by
  intro payer order now same
  obtain ⟨id, found⟩ := Option.isSome_iff_exists.mp known
  have answered : backend.answer
      (.store (.get (PaymentRecord.orderKey fingerprint))) archive =
        (some (((backend.access (PaymentRecord.orderKey fingerprint)).run
          archive.rest).1.map fun _ => some id),
          { archive with rest := ((backend.access (PaymentRecord.orderKey fingerprint)).run
            archive.rest).2 }) := by
    rw [← found]
    rfl
  unfold sign reading
  rw [run_signOrder, same, Program.asked, Program.run, answered]
  rcases (backend.access (PaymentRecord.orderKey fingerprint)).run archive.rest with
    ⟨failure | _, rest⟩
  · exact ⟨rfl, rfl⟩
  · exact ⟨rfl, rfl⟩

theorem latest_eq (vault : String) (archive : Archive Rest) :
    backend.latest vault archive = backend.reading (PaymentRecord.vaultKey vault)
      (archive.store.get? (PaymentRecord.vaultKey vault)) archive := rfl

end Backend

/-- Once the node has taken a payment, no order with its fingerprint is signed again, and the record
tells the latest payment of each vault, whatever calls come in between. A call whose read of the
record fails gives that failure instead. -/
theorem broadcast_orders_stay_suppressed (backend : Backend Rest)
    (operations : List Operation) (before : Archive Rest) :
    let history := backend.performAll operations before
    (∀ paid ∈ history.payments,
      backend.Suppresses paid.order.fingerprint history.archive) ∧
    (∀ vault, backend.latest vault history.archive =
      backend.reading (PaymentRecord.vaultKey vault)
        ((lastId? Order.vault vault history.payments).or
          (before.store.get? (PaymentRecord.vaultKey vault))) history.archive) ∧
    ∀ order payload, backend.Settles order payload history.archive := by
  intro history
  have tells : Tells before.store history := .performAll backend operations before
  refine ⟨?_, ?_, fun order payload => settles backend order payload history.archive⟩
  · intro paid member
    apply backend.suppresses_of_recorded
    rw [tells.order, Option.isSome_or, isSome_lastId? Order.fingerprint member, Bool.true_or]
  · intro vault
    rw [backend.latest_eq, tells.vault]

/-! An order that is paid while the reads of the store come to fail. -/

def takenBody : String := "\x7b\"result\":true\x7d"

/-- A node that builds transfers and takes payments without naming them, and a store that can be
read a number of times. -/
def sharedBackend : Backend Nat where
  service := ⟨"", "", ""⟩
  exchange request := pure (.answered 200
    (if request.url = "/wallet/createtransaction" then sharedShell.toText else takenBody))
  access _
    | 0 => (.error (.database "unreadable"), 0)
    | reads + 1 => (.ok (), reads)
  respond
    | .memory, reads => (some sharedMemory, reads)
    | .remoteSign hash _ _, reads => (some (.ok (sharedSignature hash)), reads)
    | _, reads => (none, reads)

theorem isExact_sharedShell : sharedShell.IsExact := by
  intro contract member
  exact isExact_sharedPayment firstTime [] contract member

theorem builds_sharedShell (owner recipient : String) (amount : UInt64) (memo : String)
    (archive : Archive Nat) :
    sharedBackend.answer (.node (.createTransaction owner recipient amount memo)) archive =
      (some (.ok sharedShell), archive) := by
  have received := NodeCall.receive_toText isExact_sharedShell (by decide) (by decide)
    (by decide +kernel) owner recipient memo amount sharedBackend.service
  change (some ((NodeCall.createTransaction owner recipient amount memo).receive
    sharedBackend.service _ (.answered 200 sharedShell.toText)), archive) = _
  rw [received]

theorem sign_sharedOrder (reads : Nat) :
    sharedBackend.sign sharedPayer sharedOrder firstNow ⟨.empty, reads + 1⟩ =
      (.finished (.ok firstPayment.toText), ⟨.empty, reads⟩) := by
  have answered : sharedBackend.answer
      (.store (.get (PaymentRecord.orderKey sharedOrder.fingerprint))) ⟨.empty, reads + 1⟩ =
        (some (.ok none), ⟨.empty, reads⟩) := rfl
  have signs := gives_sharedPayment (fun _ _ _ _ => builds_sharedShell _ _ _ _ ⟨.empty, reads⟩)
    (fun _ _ _ => rfl) (rfl : stamp firstNow = .ok firstTime) rfl rfl digest_first recover_first
  have ends : (afterRecord sharedPayer sharedOrder firstNow (.ok none)).Ends
      sharedBackend.answer ⟨.empty, reads⟩ (.ok firstPayment.toText) ⟨.empty, reads⟩ :=
    Action.gives_bind.mpr ⟨sharedMemory, _, Action.gives_memory.mpr rfl,
      Action.gives_bind.mpr ⟨_, _, signs, Action.gives_pure.mpr ⟨rfl, rfl⟩⟩⟩
  unfold Backend.sign
  rw [run_signOrder, Program.run, answered]
  exact ends

theorem isSome_value_firstPayment :
    (Value.ofJson? Json.maxDepth firstPayment.toJson).isSome := by
  decide +kernel

theorem hears_sharedPayment (archive : Archive Nat) :
    sharedBackend.Hears firstPayment.toText archive (.ok ⟨true, "", none, none⟩) archive.rest := by
  obtain ⟨body, read⟩ := Option.isSome_iff_exists.mp isSome_value_firstPayment
  have other : ¬ (Http.post "" "/wallet/broadcasttransaction" body).url =
      "/wallet/createtransaction" := by
    change ¬ Http.withoutSlashes "" ++ "/wallet/broadcasttransaction" = "/wallet/createtransaction"
    decide
  have taken : Json.decode BroadcastReply.readJson (Http.bodyText 200 takenBody) =
      some ⟨true, "", none, none⟩ := by
    decide +kernel
  refine ⟨_, .answered 200 takenBody, NodeCall.request_toText (isExact_sharedPayment _ _) read _,
    ?_, Http.receive_answered taken _⟩
  unfold sharedBackend
  dsimp only
  rw [if_neg other]
  rfl

theorem broadcast_sharedOrder (archive : Archive Nat) :
    sharedBackend.broadcast sharedOrder firstPayment.toText archive =
      (.finished (.ok firstPayment.id),
        ⟨recorded archive.store sharedOrder firstPayment.id, archive.rest⟩) := by
  have exact : firstPayment.IsExact := isExact_sharedPayment _ _
  have found : broadcastId ⟨true, "", none, none⟩ firstPayment.toText = .ok firstPayment.id := by
    rw [broadcastId_toText exact, payloadName_toText exact]
  exact (settles _ _ _ _).taken _ _ _ (hears_sharedPayment archive) rfl
    (broadcastId_eq_ok_iff.mp found)

def sharedOperations : List Operation :=
  [.sign sharedPayer sharedOrder firstNow, .broadcast sharedOrder firstPayment.toText]

theorem performAll_sharedOperations (reads : Nat) :
    sharedBackend.performAll sharedOperations ⟨.empty, reads + 1⟩ =
      ⟨⟨recorded .empty sharedOrder firstPayment.id, reads⟩,
        [⟨sharedOrder, firstPayment.id⟩]⟩ := by
  have signed : sharedBackend.perform ⟨⟨.empty, reads + 1⟩, []⟩
      (.sign sharedPayer sharedOrder firstNow) = ⟨⟨.empty, reads⟩, []⟩ := by
    unfold Backend.perform
    dsimp only
    rw [sign_sharedOrder]
  have paid := Backend.perform_of_broadcast []
    (broadcast_sharedOrder ⟨.empty, reads⟩)
  unfold Backend.performAll sharedOperations
  rw [List.foldl_cons, List.foldl_cons, List.foldl_nil, signed, paid, List.nil_append]

theorem sharedOrder_stays_suppressed :
    ∃ history, sharedBackend.performAll sharedOperations ⟨.empty, 3⟩ = history ∧
      history.payments = [⟨sharedOrder, firstPayment.id⟩] ∧
      (sharedBackend.sign sharedPayer sharedOrder secondNow history.archive).1 =
        .finished (.ok "") ∧
      (sharedBackend.latest sharedOrder.vault history.archive).1 =
        .finished (.ok (some firstPayment.id)) := by
  obtain ⟨suppressed, latest, -⟩ :=
    broadcast_orders_stay_suppressed sharedBackend sharedOperations ⟨.empty, 3⟩
  rw [performAll_sharedOperations] at suppressed latest
  refine ⟨_, performAll_sharedOperations 2, rfl, ?_, ?_⟩
  · have silent := suppressed _ (List.mem_singleton.mpr rfl)
    rw [(silent sharedPayer sharedOrder secondNow rfl).2]
    rfl
  · rw [latest]
    have last : lastId? Order.vault sharedOrder.vault [⟨sharedOrder, firstPayment.id⟩] =
        some firstPayment.id := by
      rw [← List.nil_append [_], lastId?_concat, if_pos rfl]
    rw [last, Option.some_or]
    rfl

/-- When the record of a paid order cannot be read, the call that signs fails. -/
theorem sharedOrder_is_not_suppressed_unread :
    (sharedBackend.sign sharedPayer sharedOrder firstNow ⟨.empty, 1⟩).1 =
        .finished (.ok firstPayment.toText) ∧
      ∃ history, sharedBackend.performAll sharedOperations ⟨.empty, 1⟩ = history ∧
        history.payments = [⟨sharedOrder, firstPayment.id⟩] ∧
        (sharedBackend.sign sharedPayer sharedOrder secondNow history.archive).1 =
          .finished (.error (.database "unreadable")) := by
  refine ⟨by rw [sign_sharedOrder], _, performAll_sharedOperations 0, rfl, ?_⟩
  have known : ((recorded .empty sharedOrder firstPayment.id).get?
      (PaymentRecord.orderKey sharedOrder.fingerprint)).isSome := by
    rw [recorded, PaymentRecord.get?_recorded]
    rfl
  have suppressed : sharedBackend.Suppresses sharedOrder.fingerprint
      ⟨recorded .empty sharedOrder firstPayment.id, 0⟩ :=
    sharedBackend.suppresses_of_recorded known
  rw [(suppressed sharedPayer sharedOrder secondNow rfl).2]
  rfl

end TronGateway.Payment
