import TronGateway.Cursor
import TronGateway.PaymentRecord
import TronGateway.Proofs.Number.Decimal
import TronGateway.Proofs.Store
set_option autoImplicit false

/-!
# The record in a store that works

In a store that answers every call, a recorded order is found under its fingerprint, and an order is
paid exactly when there is an entry under its fingerprint.
-/

namespace TronGateway

def Store.serve (call : StoreCall) (store : Store) : Option call.Reply × Store :=
  (some (.ok (store.answer call).1), (store.answer call).2)

namespace Cursor

theorem key_injective {first second : String} (same : key first = key second) : first = second :=
  (String.append_right_inj _).mp same

theorem parse_ofInt (height : Int64) : parse (Decimal.ofInt height.toInt) = .ok height := by
  unfold parse
  rw [Decimal.readInt64_ofInt]

end Cursor

namespace PaymentRecord

theorem orderKey_ne_vaultKey (fingerprint vault : String) :
    orderKey fingerprint ≠ vaultKey vault := by
  intro same
  have chars := congrArg String.toList same
  unfold orderKey vaultKey at chars
  simp at chars

theorem orderKey_injective {first second : String} (same : orderKey first = orderKey second) :
    first = second :=
  (String.append_right_inj _).mp same

theorem vaultKey_injective {first second : String} (same : vaultKey first = vaultKey second) :
    first = second :=
  (String.append_right_inj _).mp same

theorem orderKey_ne_cursorKey (fingerprint chain : String) :
    orderKey fingerprint ≠ Cursor.key chain := by
  intro same
  have chars := congrArg String.toList same
  unfold orderKey Cursor.key at chars
  simp at chars

theorem vaultKey_ne_cursorKey (vault chain : String) : vaultKey vault ≠ Cursor.key chain := by
  intro same
  have chars := congrArg String.toList same
  unfold vaultKey Cursor.key at chars
  simp at chars

theorem run_isPaid (fingerprint : String) (store : Store) :
    (isPaid fingerprint).run.run Store.serve store =
      (.finished (.ok (store.get? (orderKey fingerprint)).isSome), store) := rfl

theorem run_record (fingerprint vault txId : String) (store : Store) :
    (record fingerprint vault txId).run Store.serve store =
      (.finished (), (store.put (orderKey fingerprint) txId).put (vaultKey vault) txId) := rfl

theorem get?_orderKey_recorded (fingerprint vault txId other : String) (store : Store) :
    ((store.put (orderKey fingerprint) txId).put (vaultKey vault) txId).get? (orderKey other) =
      (if fingerprint = other then some txId else none).or (store.get? (orderKey other)) :=
  (Store.get?_put_other _ (orderKey_ne_vaultKey other vault) txId).trans
    (Store.get?_put_named orderKey_injective store fingerprint other txId)

theorem get?_vaultKey_recorded (fingerprint vault txId other : String) (store : Store) :
    ((store.put (orderKey fingerprint) txId).put (vaultKey vault) txId).get? (vaultKey other) =
      (if vault = other then some txId else none).or (store.get? (vaultKey other)) := by
  rw [Store.get?_put_named vaultKey_injective,
    Store.get?_put_other _ (orderKey_ne_vaultKey fingerprint other).symm]

theorem get?_recorded (fingerprint vault txId : String) (store : Store) :
    ((store.put (orderKey fingerprint) txId).put (vaultKey vault) txId).get?
      (orderKey fingerprint) = some txId := by
  rw [get?_orderKey_recorded, if_pos rfl, Option.some_or]

/-- After a payment is recorded, the orders that count as paid are those of before and those with
the fingerprint. -/
theorem isPaid_after_record (fingerprint other vault txId : String) (store : Store) :
    (((record fingerprint vault txId).run Store.serve store).2.get? (orderKey other)).isSome =
      (decide (other = fingerprint) || (store.get? (orderKey other)).isSome) := by
  rw [run_record, get?_orderKey_recorded]
  by_cases same : fingerprint = other
  · simp [same]
  · simp [same, Ne.symm same]

end PaymentRecord
end TronGateway
