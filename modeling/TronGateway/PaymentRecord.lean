import TronGateway.Store
set_option autoImplicit false

/-!
# The record of paid orders

For each paid order the id of the transaction that paid it, under the fingerprint of the order, and
for each vault the id of its latest payment.
-/

namespace TronGateway.PaymentRecord

def orderKey (fingerprint : String) : String := "signed:" ++ fingerprint

def vaultKey (vault : String) : String := "latest:" ++ vault

def payment? (fingerprint : String) : Stored (Option String) :=
  Stored.call (.get (orderKey fingerprint))

def isPaid (fingerprint : String) : Stored Bool := do
  return (← payment? fingerprint).isSome

def latest? (vault : String) : Stored (Option String) :=
  Stored.call (.get (vaultKey vault))

/-- Records a payment. When the order cannot be recorded, the vault is not recorded either; failures
of the store stay without consequence. -/
def record (fingerprint vault txId : String) : Program StoreCall.Reply Unit := do
  match ← Program.query (.put (orderKey fingerprint) txId) with
  | .error _ => return ()
  | .ok _ =>
    let _ ← Program.query (.put (vaultKey vault) txId)
    return ()

end TronGateway.PaymentRecord
