import Mathlib.Data.List.Induction
import TronGateway.Proofs.PaymentRecord
set_option autoImplicit false

/-!
# Three maps in one store

The cursors, the paid orders and the latest payments of the vaults are kept in one store, each under
keys with a beginning of its own. Any write can fail. What is read of one map is what was last
written to that map with success, and nothing that is done to the others shows in it, whatever the
names of chains, orders and vaults are.
-/

namespace TronGateway.Store

/-- A store with the faults of its next writes. Later writes succeed. -/
structure Trial where
  store : Store
  faults : List (Option Error)

/-- A write that fails leaves the store as it is. -/
def Trial.answer : (call : StoreCall) → Trial → Option call.Reply × Trial
  | .put _ _, ⟨store, some failure :: faults⟩ => (some (.error failure), ⟨store, faults⟩)
  | .put key text, ⟨store, none :: faults⟩ => (some (.ok ()), ⟨store.put key text, faults⟩)
  | call, ⟨store, faults⟩ => (some (.ok (store.answer call).1), ⟨(store.answer call).2, faults⟩)

/-- Something that is written, with the faults of its writes. -/
inductive Operation where
  | move (chain : String) (height : Int64) (fault : Option Error)
  | record (fingerprint vault txId : String) (orderFault vaultFault : Option Error)

namespace Operation

def perform (store : Store) : Operation → Store
  | move chain height fault =>
    ((Cursor.write chain height).run.run Trial.answer ⟨store, [fault]⟩).2.store
  | record fingerprint vault txId orderFault vaultFault =>
    ((PaymentRecord.record fingerprint vault txId).run Trial.answer
      ⟨store, [orderFault, vaultFault]⟩).2.store

def isMove : Operation → Bool
  | move _ _ _ => true
  | record _ _ _ _ _ => false

/-- The cursor of a chain. -/
def cursor? (chain : String) : Operation → Option Int64
  | move moved height none => if moved = chain then some height else none
  | _ => none

/-- The payment of an order. It does not depend on the second write. -/
def payment? (fingerprint : String) : Operation → Option String
  | record paid _ txId none _ => if paid = fingerprint then some txId else none
  | _ => none

/-- The latest payment of a vault. -/
def latest? (vault : String) : Operation → Option String
  | record _ payer txId none none => if payer = vault then some txId else none
  | _ => none

end Operation

def performAll (store : Store) (history : List Operation) : Store :=
  history.foldl Operation.perform store

/-- What was written last. -/
def last? {α : Type} (written : Operation → Option α) (history : List Operation) : Option α :=
  history.reverse.findSome? written

/-- What a store that works answers to a program, and the store after it. -/
def tells {α : Type} (store : Store) (program : Stored α) : Outcome (Except Error α) × Store :=
  program.run.run Store.serve store

theorem last?_concat {α : Type} (written : Operation → Option α) (history : List Operation)
    (operation : Operation) :
    last? written (history ++ [operation]) = (written operation).or (last? written history) := by
  unfold last?
  rw [List.reverse_concat, List.findSome?_cons]
  cases written operation with
  | none => rfl
  | some value => rfl

theorem last?_map {α β : Type} (written : Operation → Option α) (f : α → β)
    (history : List Operation) :
    last? (fun operation => (written operation).map f) history = (last? written history).map f := by
  unfold last?
  rw [List.map_findSome?]
  rfl

theorem last?_filter {α : Type} {written : Operation → Option α} {counts : Operation → Bool}
    (silent : ∀ operation, counts operation = false → written operation = none)
    (history : List Operation) :
    last? written (history.filter counts) = last? written history := by
  induction history using List.reverseRecOn with
  | nil => rfl
  | append_singleton history operation ih =>
      rw [List.filter_append, last?_concat]
      cases counted : counts operation with
      | true => rw [List.filter_cons_of_pos counted, List.filter_nil, last?_concat, ih]
      | false =>
          rw [List.filter_cons_of_neg (by rw [counted]; exact Bool.false_ne_true), List.filter_nil,
            List.append_nil, ih, silent operation counted, Option.none_or]

theorem performAll_concat (store : Store) (history : List Operation) (operation : Operation) :
    performAll store (history ++ [operation]) = operation.perform (performAll store history) :=
  List.foldl_concat ..

theorem get?_performAll {key : String} {written : Operation → Option String}
    (step : ∀ store operation, (Operation.perform store operation).get? key =
      (written operation).or (store.get? key)) (store : Store) (history : List Operation) :
    (performAll store history).get? key = (last? written history).or (store.get? key) := by
  induction history using List.reverseRecOn with
  | nil => rfl
  | append_singleton history operation ih =>
      rw [performAll_concat, last?_concat, step, ih, Option.or_assoc]

namespace Operation

theorem get?_perform_cursor (chain : String) (store : Store) (operation : Operation) :
    (perform store operation).get? (Cursor.key chain) =
      ((operation.cursor? chain).map fun height => Decimal.ofInt height.toInt).or
        (store.get? (Cursor.key chain)) := by
  cases operation with
  | move moved height fault =>
      cases fault with
      | some failure => rfl
      | none =>
          refine (get?_put_named Cursor.key_injective store moved chain _).trans ?_
          rw [cursor?]
          split <;> rfl
  | record fingerprint vault txId orderFault vaultFault =>
      have order := (PaymentRecord.orderKey_ne_cursorKey fingerprint chain).symm
      have latest := (PaymentRecord.vaultKey_ne_cursorKey vault chain).symm
      cases orderFault with
      | some failure => rfl
      | none =>
          cases vaultFault with
          | some failure => exact get?_put_other _ order _
          | none => exact (get?_put_other _ latest _).trans (get?_put_other _ order _)

theorem get?_perform_payment (fingerprint : String) (store : Store) (operation : Operation) :
    (perform store operation).get? (PaymentRecord.orderKey fingerprint) =
      (operation.payment? fingerprint).or
        (store.get? (PaymentRecord.orderKey fingerprint)) := by
  cases operation with
  | move moved height fault =>
      cases fault with
      | some failure => rfl
      | none => exact get?_put_other _ (PaymentRecord.orderKey_ne_cursorKey _ _) _
  | record paid vault txId orderFault vaultFault =>
      cases orderFault with
      | some failure => rfl
      | none =>
          cases vaultFault with
          | some failure => exact get?_put_named PaymentRecord.orderKey_injective _ _ _ _
          | none => exact PaymentRecord.get?_orderKey_recorded _ _ _ _ _

theorem get?_perform_latest (vault : String) (store : Store) (operation : Operation) :
    (perform store operation).get? (PaymentRecord.vaultKey vault) =
      (operation.latest? vault).or (store.get? (PaymentRecord.vaultKey vault)) := by
  cases operation with
  | move moved height fault =>
      cases fault with
      | some failure => rfl
      | none => exact get?_put_other _ (PaymentRecord.vaultKey_ne_cursorKey _ _) _
  | record fingerprint payer txId orderFault vaultFault =>
      cases orderFault with
      | some failure => rfl
      | none =>
          cases vaultFault with
          | some failure =>
              exact get?_put_other _ (PaymentRecord.orderKey_ne_vaultKey fingerprint vault).symm _
          | none => exact PaymentRecord.get?_vaultKey_recorded _ _ _ _ _

end Operation

/-! ### What is read -/

/-- A program that reads a map. It tells what was written to the map last, and what it told before
as long as nothing was; operations that write nothing to the map can be left out. -/
structure ReadsMap {α : Type} (program : Stored (Option α)) (written : Operation → Option α) :
    Prop where
  fresh : empty.tells program = (.finished (.ok none), empty)
  tells : ∀ before history, (performAll before history).tells program =
    (match last? written history with
      | some value => .finished (.ok (some value))
      | none => (before.tells program).1, performAll before history)
  ignores : ∀ counts : Operation → Bool,
    (∀ operation, counts operation = false → written operation = none) →
    ∀ before history, ((performAll before (history.filter counts)).tells program).1 =
      ((performAll before history).tells program).1

theorem ReadsMap.of_tells {α : Type} {program : Stored (Option α)} {written : Operation → Option α}
    (fresh : empty.tells program = (.finished (.ok none), empty))
    (tells : ∀ before history, (performAll before history).tells program =
      (match last? written history with
        | some value => .finished (.ok (some value))
        | none => (before.tells program).1, performAll before history)) :
    ReadsMap program written where
  fresh := fresh
  tells := tells
  ignores := by
    intro counts silent before history
    rw [tells before (history.filter counts), tells before history, last?_filter silent]

theorem run_read (chain : String) :
    (Cursor.read chain).run = .ask (.get (Cursor.key chain)) fun reply =>
      .done (match reply with
        | .error failure => .error failure
        | .ok none => .ok none
        | .ok (some text) => (Cursor.parse text).map some) := by
  refine congrArg (Program.ask (StoreCall.get (Cursor.key chain))) (funext fun reply => ?_)
  match reply with
  | .error failure => rfl
  | .ok none => rfl
  | .ok (some text) =>
      change (ExceptT.run (do return some (← Cursor.parse text)) :
        Program StoreCall.Reply (Except Error (Option Int64))) =
          .done ((Cursor.parse text).map some)
      cases parsed : Cursor.parse text with
      | error failure => rfl
      | ok height => rfl

theorem tells_cursor (store : Store) (chain : String) :
    store.tells (Cursor.read chain) =
      (.finished (match store.get? (Cursor.key chain) with
        | none => .ok none
        | some text => (Cursor.parse text).map some), store) := by
  unfold tells
  rw [run_read]
  simp only [Program.run, serve, answer]
  cases store.get? (Cursor.key chain) with
  | none => rfl
  | some text => rfl

theorem readsMap_cursor (chain : String) :
    ReadsMap (Cursor.read chain) (Operation.cursor? chain) := by
  refine .of_tells rfl fun before history => ?_
  rw [tells_cursor, tells_cursor, get?_performAll (Operation.get?_perform_cursor chain), last?_map]
  cases last? (Operation.cursor? chain) history with
  | none => rfl
  | some height =>
      rw [Option.map_some, Option.some_or]
      simp only [Cursor.parse_ofInt]
      rfl

theorem readsMap_get {key : String} {written : Operation → Option String}
    (step : ∀ store operation, (Operation.perform store operation).get? key =
      (written operation).or (store.get? key)) : ReadsMap (Stored.call (.get key)) written := by
  refine .of_tells rfl fun before history => ?_
  have found := get?_performAll step before history
  change (Outcome.finished (Except.ok (Store.get? _ _)), _) = _
  rw [found]
  cases last? written history with
  | none => rfl
  | some text => rfl

/-- The cursors of the chains, the payments of the orders and the latest payments of the vaults are
maps of their own: an entry tells what the last write to it has left that did not fail, whatever was
written elsewhere before and after. Writing a cursor fails as the store does. -/
theorem maps_are_independent (chain fingerprint vault : String) :
    ReadsMap (Cursor.read chain) (Operation.cursor? chain) ∧
    ReadsMap (PaymentRecord.payment? fingerprint) (Operation.payment? fingerprint) ∧
    ReadsMap (PaymentRecord.latest? vault) (Operation.latest? vault) ∧
    (∀ height fault store,
      ((Cursor.write chain height).run.run Trial.answer ⟨store, [fault]⟩).1 =
        .finished (match fault with
          | none => .ok ()
          | some failure => .error failure)) ∧
    ∀ before history,
      ((performAll before (history.filter Operation.isMove)).tells (Cursor.read chain)).1 =
        ((performAll before history).tells (Cursor.read chain)).1 ∧
      ((performAll before (history.filter fun operation => !operation.isMove)).tells
          (PaymentRecord.payment? fingerprint)).1 =
        ((performAll before history).tells (PaymentRecord.payment? fingerprint)).1 ∧
      ((performAll before (history.filter fun operation => !operation.isMove)).tells
          (PaymentRecord.latest? vault)).1 =
        ((performAll before history).tells (PaymentRecord.latest? vault)).1 := by
  have payments := readsMap_get (Operation.get?_perform_payment fingerprint)
  have latest := readsMap_get (Operation.get?_perform_latest vault)
  refine ⟨readsMap_cursor chain, payments, latest, ?_, fun before history => ⟨?_, ?_, ?_⟩⟩
  · intro height fault store
    cases fault with
    | none => rfl
    | some failure => rfl
  · refine (readsMap_cursor chain).ignores _ ?_ before history
    intro operation counted
    cases operation with
    | move moved height fault => cases counted
    | record paid payer txId orderFault vaultFault => rfl
  · refine payments.ignores _ ?_ before history
    intro operation counted
    cases operation with
    | move moved height fault => rfl
    | record paid payer txId orderFault vaultFault => cases counted
  · refine latest.ignores _ ?_ before history
    intro operation counted
    cases operation with
    | move moved height fault => rfl
    | record paid payer txId orderFault vaultFault => cases counted

end TronGateway.Store
