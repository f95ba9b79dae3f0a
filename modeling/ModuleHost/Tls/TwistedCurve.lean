import ModuleHost.Tls.Der
import ModuleHost.Tls.Digest
import ModuleHost.Tls.Residue

/-!
# The twisted curve

The curve `y² - x² = 1 + d·x²·y²` over a prime field, whose keys are made from a seed of 32 bytes.

* `TwistedCurve.publicBytes`: the public key of a seed.
-/

namespace ModuleHost.TwistedCurve

open Residue (difference quotient)

/-- The name of the curve in keys. -/
def name : Bytes := [0x2b, 0x65, 0x70]

def prime : Nat := 0x7fffffffffffffffffffffffffffffffffffffffffffffffffffffffffffffed

def d : Nat := 0x52036cee2b6ffe738cc740797779e89800700a4d4141d8ab75eb4dca135978a3

/-- The base point. -/
def base : Nat × Nat :=
  (0x216936d3cd6e53fec0a4e231fdd6dc5c692cc7609525a7b2c9562d608f25d51a,
    0x6666666666666666666666666666666666666666666666666666666666666658)

/-- **The sum of two points.** -/
def add (p q : Nat × Nat) : Nat × Nat :=
  let (x₁, y₁) := p
  let (x₂, y₂) := q
  let cross := d * x₁ * x₂ * y₁ * y₂
  (quotient prime (x₁ * y₂ + x₂ * y₁) (1 + cross),
    quotient prime (y₁ * y₂ + x₁ * x₂) (difference prime 1 cross))

/-- A multiple of a point. -/
def multiple (n : Nat) (p : Nat × Nat) : Nat × Nat :=
  if n = 0 then (0, 1)
  else
    let h := multiple (n / 2) (add p p)
    if n % 2 = 1 then add p h else h

/-- The bytes of a seed. -/
def seedLength : Nat := 32

/-- The secret number of a seed: a multiple of eight between two powers of two. -/
def secretOf (seed : Bytes) : Nat :=
  let n := Der.natOf ((Digest.ofBytes seed).take seedLength).reverse
  (n % (1 <<< 254)) / 8 * 8 + (1 <<< 254)

/-- **The public key of a seed**: the second coordinate, the lowest byte first, with a mark in its
highest bit if the first coordinate is odd. -/
def publicBytes (seed : Bytes) : Bytes :=
  let (x, y) := multiple (secretOf seed) base
  (Der.fixed seedLength (y + x % 2 * (1 <<< 255))).reverse

end ModuleHost.TwistedCurve
