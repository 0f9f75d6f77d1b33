import TronGateway.Curve.Key
import TronGateway.Hash.Hmac
set_option autoImplicit false

/-!
# Recoverable signatures

Signing a 32-byte hash and recovering the signer's key. A signature is 65 bytes: `r`, `s` and the
recovery number, which says which of the points with abscissa `r` was the nonce point. The nonce is
a function of key and hash, out of a generator that both feed, and of the two values of `s` that
verify the lower one is written; recovery takes both.
-/

namespace TronGateway.Curve

def signatureLength : Nat := 65

structure NonceState where
  key : List UInt8
  value : List UInt8

namespace NonceState

def update (state : NonceState) (marker : UInt8) (data : List UInt8) : NonceState :=
  let key := Hmac.sign state.key (state.value ++ marker :: data)
  ⟨key, Hmac.sign key state.value⟩

def seed (secret : SecretKey) (hash : List UInt8) : NonceState :=
  let data := secret.bytes ++ hash
  let start : NonceState := ⟨List.replicate 32 0, List.replicate 32 1⟩
  (start.update 0 data).update 1 data

def advance (state : NonceState) : NonceState :=
  ⟨state.key, Hmac.sign state.key state.value⟩

def retry (state : NonceState) : NonceState :=
  state.update 0 []

end NonceState

def signWith? (secret : SecretKey) (hash nonce : Nat) : Option (List UInt8) :=
  match generator.multiply? nonce with
  | none => none
  | some point =>
    let r := point.x % order
    let s := invert order nonce * (hash + r * secret.scalar) % order
    if r = 0 ∨ s = 0 then none
    else
      let odd := point.y % 2 = 1
      let high := order / 2 < s
      let low := if high then order - s else s
      let parity : Nat := if odd ≠ high then 1 else 0
      let wrapped : Nat := if order ≤ point.x then 2 else 0
      some (BigEndian.ofNat 32 r ++ BigEndian.ofNat 32 low ++ [UInt8.ofNat (wrapped + parity)])

/-- Tries nonce candidates in order. A candidate is refused with negligible probability, so that
the bound on their number is never met. -/
def signFrom (secret : SecretKey) (hash : Nat) : Nat → NonceState → List UInt8
  | 0, _ => []
  | fuel + 1, state =>
    let drawn := state.advance
    let nonce := BigEndian.toNat drawn.value
    let attempt := if 0 < nonce ∧ nonce < order then signWith? secret hash nonce else none
    match attempt with
    | some signature => signature
    | none => signFrom secret hash fuel drawn.retry

def sign (secret : SecretKey) (hash : List UInt8) : Except Fault (List UInt8) :=
  if hash.length = 32 then
    .ok (signFrom secret (BigEndian.toNat hash) 64 (NonceState.seed secret hash))
  else .error .hashLength

/-- The key for which `r`, `s` and the recovery number sign the hash. -/
def recoverPoint? (hash r s recovery : Nat) : Option Point :=
  let x := if 2 ≤ recovery then r + order else r
  if r = 0 ∨ s = 0 ∨ fieldPrime ≤ x then none
  else
    match lift? x (recovery % 2 = 1) with
    | none => none
    | some point =>
      let inverse := invert order r
      let fromPoint := (Jacobian.ofPoint point).multiply (s * inverse % order)
      let fromHash :=
        (Jacobian.ofPoint generator).multiply ((order - hash % order) * inverse % order)
      (fromPoint.add fromHash).toPoint?

/-- Recovers the signer of a hash of 32 bytes from the 65 bytes of a signature. -/
def recover (hash signature : List UInt8) : Except Fault PublicKey :=
  let recovery := ((signature.drop 64).headD 0).toNat
  let r := BigEndian.toNat (signature.take 32)
  let s := BigEndian.toNat ((signature.drop 32).take 32)
  if hash.length ≠ 32 then .error .hashLength
  else if 4 ≤ recovery then .error .recoveryId
  else if order ≤ r ∨ order ≤ s then .error .signature
  else
    match recoverPoint? (BigEndian.toNat hash) r s recovery with
    | some key => .ok key
    | none => .error .signature

end TronGateway.Curve
