set_option autoImplicit false

/-!
# Keccak-256

The Keccak sponge with a rate of 136 bytes and the padding byte 0x01. The state has
25 lanes of 64 bits; the lane in column `x` and row `y` stands at position `x + 5 * y`. A digest
has 32 bytes.
-/

namespace TronGateway.Keccak256

def roundConstants : List UInt64 := [
  0x0000000000000001, 0x0000000000008082, 0x800000000000808a, 0x8000000080008000,
  0x000000000000808b, 0x0000000080000001, 0x8000000080008081, 0x8000000000008009,
  0x000000000000008a, 0x0000000000000088, 0x0000000080008009, 0x000000008000000a,
  0x000000008000808b, 0x800000000000008b, 0x8000000000008089, 0x8000000000008003,
  0x8000000000008002, 0x8000000000000080, 0x000000000000800a, 0x800000008000000a,
  0x8000000080008081, 0x8000000000008080, 0x0000000080000001, 0x8000000080008008
]

def rotations : List Nat := [
  0, 1, 62, 28, 27, 36, 44, 6, 55, 20, 3, 10, 43, 25, 39, 41, 45, 15, 21, 8, 18, 2, 61, 56, 14
]

def rotate (lane : UInt64) (count : Nat) : UInt64 :=
  if count % 64 = 0 then lane
  else (lane <<< UInt64.ofNat (count % 64)) ||| (lane >>> UInt64.ofNat (64 - count % 64))

def lane (state : Array UInt64) (position : Nat) : UInt64 :=
  state.getD position 0

def build (at_ : Nat → Nat → UInt64) : Array UInt64 :=
  ((List.range 25).map fun position => at_ (position % 5) (position / 5)).toArray

def mixColumns (state : Array UInt64) : Array UInt64 :=
  let parity := ((List.range 5).map fun x =>
    lane state x ^^^ lane state (x + 5) ^^^ lane state (x + 10) ^^^ lane state (x + 15) ^^^
      lane state (x + 20)).toArray
  build fun x y =>
    lane state (x + 5 * y) ^^^ lane parity ((x + 4) % 5) ^^^ rotate (lane parity ((x + 1) % 5)) 1

/-- Rotates each lane and moves the lane at `(x, y)` to `(y, 2 x + 3 y)`. -/
def moveLanes (state : Array UInt64) : Array UInt64 :=
  build fun x y =>
    let source := (x + 3 * y) % 5 + 5 * x
    rotate (lane state source) (rotations.getD source 0)

def mixRows (state : Array UInt64) : Array UInt64 :=
  build fun x y =>
    lane state (x + 5 * y) ^^^
      (~~~lane state ((x + 1) % 5 + 5 * y) &&& lane state ((x + 2) % 5 + 5 * y))

def round (state : Array UInt64) (constant : UInt64) : Array UInt64 :=
  let mixed := mixRows (moveLanes (mixColumns state))
  mixed.setIfInBounds 0 (lane mixed 0 ^^^ constant)

def permute (state : Array UInt64) : Array UInt64 :=
  roundConstants.foldl round state

def laneOfBytes (bytes : List UInt8) : UInt64 :=
  bytes.foldr (fun byte value => (value <<< 8) ||| byte.toUInt64) 0

def laneBytes (value : UInt64) : List UInt8 :=
  [value.toUInt8, (value >>> 8).toUInt8, (value >>> 16).toUInt8, (value >>> 24).toUInt8,
    (value >>> 32).toUInt8, (value >>> 40).toUInt8, (value >>> 48).toUInt8, (value >>> 56).toUInt8]

def rate : Nat := 136

/-- The message behind which the padding fills the last block; one byte carries both marks when
only one is free. -/
def pad (message : List UInt8) : List UInt8 :=
  let free := rate - message.length % rate
  if free = 1 then message ++ [0x81]
  else message ++ 0x01 :: (List.replicate (free - 2) 0 ++ [0x80])

def absorbBlock (state : Array UInt64) (block : List UInt8) : Array UInt64 :=
  permute (build fun x y =>
    let position := x + 5 * y
    lane state position ^^^ laneOfBytes ((block.drop (8 * position)).take 8))

def absorb : Nat → Array UInt64 → List UInt8 → Array UInt64
  | 0, state, _ => state
  | count + 1, state, message =>
    absorb count (absorbBlock state (message.take rate)) (message.drop rate)

def digest (message : List UInt8) : List UInt8 :=
  let padded := pad message
  let state := absorb (padded.length / rate) (build fun _ _ => 0) padded
  laneBytes (lane state 0) ++ laneBytes (lane state 1) ++ laneBytes (lane state 2) ++
    laneBytes (lane state 3)

@[simp] theorem length_digest (message : List UInt8) : (digest message).length = 32 := by
  simp [digest, laneBytes]

end TronGateway.Keccak256
