set_option autoImplicit false

/-!
# The curve secp256k1

Points of `y² = x³ + 7` over the prime field of secp256k1, their sums and multiples. Coordinates
are natural numbers below the field prime; multiples are computed in Jacobian coordinates.
-/

namespace TronGateway.Curve

def fieldPrime : Nat := 0xFFFFFFFFFFFFFFFFFFFFFFFFFFFFFFFFFFFFFFFFFFFFFFFFFFFFFFFEFFFFFC2F

def order : Nat := 0xFFFFFFFFFFFFFFFFFFFFFFFFFFFFFFFEBAAEDCE6AF48A03BBFD25E8CD0364141

/-- A point other than the neutral one, by its coordinates. -/
structure Point where
  x : Nat
  y : Nat
  deriving DecidableEq, Repr

def generator : Point where
  x := 0x79BE667EF9DCBBAC55A06295CE870B07029BFCDB2DCE28D959F2815B16F81798
  y := 0x483ADA7726A3C4655DA4FBFC0E1108A8FD17B448A68554199C47D08FFB10D4B8

def powMod (modulus base exponent : Nat) : Nat :=
  if exponent = 0 then 1 % modulus
  else
    let half := powMod modulus (base * base % modulus) (exponent / 2)
    if exponent % 2 = 1 then half * base % modulus else half
termination_by exponent
decreasing_by omega

def invert (prime value : Nat) : Nat :=
  powMod prime value (prime - 2)

def subMod (modulus left right : Nat) : Nat :=
  (left + (modulus - right % modulus)) % modulus

def rightSide (x : Nat) : Nat :=
  (x * x % fieldPrime * x + 7) % fieldPrime

def onCurve (x y : Nat) : Bool :=
  y * y % fieldPrime = rightSide x

def lift? (x : Nat) (odd : Bool) : Option Point :=
  let root := powMod fieldPrime (rightSide x) ((fieldPrime + 1) / 4)
  if onCurve x root then
    some ⟨x, if (root % 2 = 1) = odd then root else fieldPrime - root⟩
  else none

/-- The triple stands for the point `(x / z², y / z³)`, and for the neutral one when `z` is zero. -/
structure Jacobian where
  x : Nat
  y : Nat
  z : Nat

namespace Jacobian

def neutral : Jacobian := ⟨1, 1, 0⟩

def ofPoint (point : Point) : Jacobian := ⟨point.x, point.y, 1⟩

def toPoint? (value : Jacobian) : Option Point :=
  if value.z = 0 then none
  else
    let inverse := invert fieldPrime value.z
    let square := inverse * inverse % fieldPrime
    some ⟨value.x * square % fieldPrime, value.y * square % fieldPrime * inverse % fieldPrime⟩

def double (value : Jacobian) : Jacobian :=
  if value.z = 0 then neutral
  else
    let p := fieldPrime
    let squareY := value.y * value.y % p
    let s := 4 * value.x * squareY % p
    let m := 3 * value.x * value.x % p
    let x := subMod p (m * m) (2 * s)
    let y := subMod p (m * subMod p s x) (8 * squareY * squareY)
    ⟨x, y, 2 * value.y * value.z % p⟩

def add (left right : Jacobian) : Jacobian :=
  if left.z = 0 then right
  else if right.z = 0 then left
  else
    let p := fieldPrime
    let leftZ2 := left.z * left.z % p
    let rightZ2 := right.z * right.z % p
    let u1 := left.x * rightZ2 % p
    let u2 := right.x * leftZ2 % p
    let s1 := left.y * rightZ2 % p * right.z % p
    let s2 := right.y * leftZ2 % p * left.z % p
    if u1 = u2 then
      if s1 = s2 then double left else neutral
    else
      let h := subMod p u2 u1
      let r := subMod p s2 s1
      let h2 := h * h % p
      let h3 := h2 * h % p
      let v := u1 * h2 % p
      let x := subMod p (r * r) (h3 + 2 * v)
      let y := subMod p (r * subMod p v x) (s1 * h3)
      ⟨x, y, h * left.z % p * right.z % p⟩

def multiply (scalar : Nat) (value : Jacobian) : Jacobian :=
  if scalar = 0 then neutral
  else
    let rest := multiply (scalar / 2) (double value)
    if scalar % 2 = 1 then add rest value else rest
termination_by scalar
decreasing_by omega

end Jacobian

def Point.multiply? (scalar : Nat) (point : Point) : Option Point :=
  ((Jacobian.ofPoint point).multiply scalar).toPoint?

end TronGateway.Curve
