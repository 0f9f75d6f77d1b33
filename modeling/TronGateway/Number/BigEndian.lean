set_option autoImplicit false

/-!
# Numbers as bytes

Natural numbers as byte strings of a given length, the most significant byte first.
-/

namespace TronGateway.BigEndian

def toNat (bytes : List UInt8) : Nat :=
  bytes.foldl (fun value byte => value * 256 + byte.toNat) 0

/-- The last `count` bytes of a number. -/
def ofNat : Nat → Nat → List UInt8
  | 0, _ => []
  | count + 1, value => ofNat count (value / 256) ++ [UInt8.ofNat (value % 256)]

@[simp] theorem length_ofNat (count value : Nat) : (ofNat count value).length = count := by
  induction count generalizing value with
  | zero => rfl
  | succ count ih => simp [ofNat, ih]

end TronGateway.BigEndian
