import ModuleHost.Tls.Der
import ModuleHost.Tls.Residue

/-!
# Keys of two primes

* `Rsa.reader`: a key as files write it.
* `Rsa.usable`: its numbers belong together, and its modulus is neither short nor long.
* `Rsa.publicKey`: the public key as certificates write it.
-/

namespace ModuleHost

/-- **A key of two primes**, with the numbers that make using it quick. -/
structure Rsa where
  modulus : Nat
  publicExponent : Nat
  secretExponent : Nat
  prime₁ : Nat
  prime₂ : Nat
  exponent₁ : Nat
  exponent₂ : Nat
  coefficient : Nat
  deriving DecidableEq, Inhabited

namespace Rsa

open Der

/-- The name of keys of two primes. -/
def name : Bytes := [0x2a, 0x86, 0x48, 0x86, 0xf7, 0x0d, 0x01, 0x01, 0x01]

/-- What stands for no parameters. -/
def noParameters : Bytes := write 0x05 []

/-- A number that is not negative. -/
def number : Reader Nat := do
  let e ← next integerTag
  guard (e.content.head?.any (· < 128))
  return natOf e.content

/-- A key. -/
def reader : Reader Rsa :=
  inside sequenceTag do
    guard ((← number) == 0)
    let modulus ← number
    let publicExponent ← number
    let secretExponent ← number
    let prime₁ ← number
    let prime₂ ← number
    let exponent₁ ← number
    let exponent₂ ← number
    let coefficient ← number
    return ⟨modulus, publicExponent, secretExponent, prime₁, prime₂, exponent₁, exponent₂,
      coefficient⟩

/-- A modulus has at least this many bits. -/
def minBits : Nat := 2048

/-- A modulus has at most this many bits. -/
def maxBits : Nat := 8192

/-- **Whether a key can be used.** -/
def usable (k : Rsa) : Bool :=
  minBits ≤ k.modulus.log2 + 1 && k.modulus.log2 < maxBits && k.publicExponent % 2 == 1 &&
    1 < k.publicExponent && 1 < k.prime₁ && 1 < k.prime₂ && k.modulus == k.prime₁ * k.prime₂ &&
    k.publicExponent * k.secretExponent % (k.prime₁ - 1) == 1 &&
    k.publicExponent * k.secretExponent % (k.prime₂ - 1) == 1 &&
    k.exponent₁ == k.secretExponent % (k.prime₁ - 1) &&
    k.exponent₂ == k.secretExponent % (k.prime₂ - 1) &&
    k.coefficient * k.prime₂ % k.prime₁ == 1

/-- A number that is not negative, with a byte in front of a first bit that is set. -/
def writeNumber (n : Nat) : Bytes :=
  let bs := bigEndian n
  write integerTag (if bs.head?.any (128 ≤ ·) then 0 :: bs else bs)

/-- **The public key** as certificates write it. -/
def publicKey (k : Rsa) : Bytes :=
  write sequenceTag (write sequenceTag (write nameTag name ++ noParameters) ++
    write bitsTag (0 :: write sequenceTag (writeNumber k.modulus ++ writeNumber k.publicExponent)))

end Rsa

end ModuleHost
