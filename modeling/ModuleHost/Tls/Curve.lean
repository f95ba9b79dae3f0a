import ModuleHost.Tls.Der
import ModuleHost.Tls.Residue

/-!
# Elliptic curves

The curves `y² = x³ - 3x + b` over a prime field whose keys certificates may have.

* `Curve.point`: the public point of a secret number.
-/

namespace ModuleHost

/-- **A curve** with its base point. -/
structure Curve where
  /-- The name of the curve in keys. -/
  name : Bytes
  /-- How many bytes a coordinate has. -/
  width : Nat
  prime : Nat
  b : Nat
  x : Nat
  y : Nat
  order : Nat
  deriving DecidableEq, Inhabited

open Residue (difference quotient)

namespace Curve

def p256 : Curve where
  name := [0x2a, 0x86, 0x48, 0xce, 0x3d, 0x03, 0x01, 0x07]
  width := 32
  prime := 0xffffffff00000001000000000000000000000000ffffffffffffffffffffffff
  b := 0x5ac635d8aa3a93e7b3ebbd55769886bc651d06b0cc53b0f63bce3c3e27d2604b
  x := 0x6b17d1f2e12c4247f8bce6e563a440f277037d812deb33a0f4a13945d898c296
  y := 0x4fe342e2fe1a7f9b8ee7eb4a7c0f9e162bce33576b315ececbb6406837bf51f5
  order := 0xffffffff00000000ffffffffffffffffbce6faada7179e84f3b9cac2fc632551

def p384 : Curve where
  name := [0x2b, 0x81, 0x04, 0x00, 0x22]
  width := 48
  prime := 0xfffffffffffffffffffffffffffffffffffffffffffffffffffffffffffffffeffffffff0000000000000000ffffffff
  b := 0xb3312fa7e23ee7e4988e056be3f82d19181d9c6efe8141120314088f5013875ac656398d8a2ed19d2a85c8edd3ec2aef
  x := 0xaa87ca22be8b05378eb1c71ef320ad746e1d3b628ba79b9859f741e082542a385502f25dbf55296c3a545e3872760ab7
  y := 0x3617de4a96262c6f5d9e98bf9292dc29f8f41dbd289a147ce9da3113b5f0b8c00a60b1ce1d7e819d7a431d7c90ea0e5f
  order := 0xffffffffffffffffffffffffffffffffffffffffffffffffc7634d81f4372ddf581a0db248b0a77aecec196accc52973

def p521 : Curve where
  name := [0x2b, 0x81, 0x04, 0x00, 0x23]
  width := 66
  prime :=
    0x1ffffffffffffffffffffffffffffffffffffffffffffffffffffffffffffffffff <<< 256 +
      0xffffffffffffffffffffffffffffffffffffffffffffffffffffffffffffffff
  b :=
    0x51953eb9618e1c9a1f929a21a0b68540eea2da725b99b315f3b8b489918ef109e1 <<< 256 +
      0x56193951ec7e937b1652c0bd3bb1bf073573df883d2c34f1ef451fd46b503f00
  x :=
    0xc6858e06b70404e9cd9e3ecb662395b4429c648139053fb521f828af606b4d3dba <<< 256 +
      0xa14b5e77efe75928fe1dc127a2ffa8de3348b3c1856a429bf97e7e31c2e5bd66
  y :=
    0x11839296a789a3bc0045c8a5fb42c7d1bd998f54449579b446817afbd17273e662c <<< 256 +
      0x97ee72995ef42640c550b9013fad0761353c7086a272c24088be94769fd16650
  order :=
    0x1fffffffffffffffffffffffffffffffffffffffffffffffffffffffffffffffffa <<< 256 +
      0x51868783bf2f966b7fcc0148f709a5d03bb5c9b8899c47aebb6fb71e91386409

/-- The curves that keys can have. -/
def all : List Curve := [p256, p384, p521]

/-- **The sum of two points**; the neutral one has no coordinates. -/
def add (c : Curve) : Option (Nat × Nat) → Option (Nat × Nat) → Option (Nat × Nat)
  | none, q => q
  | p, none => p
  | some (x₁, y₁), some (x₂, y₂) =>
    if x₁ = x₂ ∧ (y₁ + y₂) % c.prime = 0 then none
    else
      let slope :=
        if x₁ = x₂ then quotient c.prime (difference c.prime (3 * x₁ * x₁) 3) (2 * y₁)
        else quotient c.prime (difference c.prime y₂ y₁) (difference c.prime x₂ x₁)
      let x := difference c.prime (slope * slope) (x₁ + x₂)
      some (x, difference c.prime (slope * difference c.prime x₁ x) y₁)

/-- A multiple of a point. -/
def multiple (c : Curve) (n : Nat) (p : Option (Nat × Nat)) : Option (Nat × Nat) :=
  if n = 0 then none
  else
    let h := multiple c (n / 2) (c.add p p)
    if n % 2 = 1 then c.add p h else h

/-- **The public point of a secret number**, which lies below the order. -/
def point (c : Curve) (secret : Nat) : Option (Nat × Nat) :=
  if secret = 0 ∨ c.order ≤ secret then none else c.multiple secret (some (c.x, c.y))

/-- A point in bytes. -/
def pointBytes (c : Curve) (p : Nat × Nat) : Bytes :=
  0x04 :: Der.fixed c.width p.1 ++ Der.fixed c.width p.2

end Curve

end ModuleHost
