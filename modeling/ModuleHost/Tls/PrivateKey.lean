import ModuleHost.Tls.Curve
import ModuleHost.Tls.TwistedCurve
import ModuleHost.Tls.Rsa

/-!
# Private keys

What a private key says about the public key that belongs to it. Keys of two primes and keys of elliptic
curves are written by themselves or in an envelope that names their kind; keys of the twisted curve
are always in an envelope.

* `PrivateKey.publicKey?`: the public key as certificates write it.
-/

namespace ModuleHost.PrivateKey

open Der

/-! ### Envelopes -/

/-- **A key in its envelope**: the name of its kind, what is said about the kind, the key, and the
public key beside it. -/
structure Envelope where
  kind : Bytes
  parameters : Bytes
  key : Bytes
  publicKey : Option Bytes
  deriving DecidableEq, Inhabited

/-- The public key in an envelope of the second version. -/
def publicField : UInt8 := 0x81

/-- An envelope, of the first or the second version. -/
def envelope : Reader Envelope :=
  inside sequenceTag do
    let version ← next integerTag
    guard (version.content == [0] || version.content == [1])
    let (kind, parameters) ← inside sequenceTag do
      let kind ← next nameTag
      return (kind.content, ← remainder)
    let key ← next bytesTag
    let _ ← next? (fieldTag 0)
    let publicKey ← if version.content == [1] then next? publicField else pure none
    return ⟨kind, parameters, key.content, publicKey.map (·.content)⟩

/-! ### Elliptic curves -/

/-- The name of keys of elliptic curves. -/
def ellipticName : Bytes := [0x2a, 0x86, 0x48, 0xce, 0x3d, 0x02, 0x01]

/-- A key of an elliptic curve: its number, its curve if it is named, and its public point if it is
written beside it. -/
structure Elliptic where
  secret : Nat
  curve : Option Bytes
  point : Option Bytes
  deriving DecidableEq, Inhabited

namespace Elliptic

/-- A field that may be missing, and what is in it. -/
def field? {α : Type} (number : Nat) (r : Reader α) : Reader (Option α) := do
  match ← next? (fieldTag number) with
  | none => return none
  | some e =>
    match r.all e.content with
    | some a => return some a
    | none => failure

/-- A key of an elliptic curve. -/
def reader : Reader Elliptic :=
  inside sequenceTag do
    guard ((← next integerTag).content == [1])
    let secret ← next bytesTag
    let curve ← field? 0 (next nameTag)
    let point ← field? 1 (next bitsTag)
    return ⟨natOf secret.content, curve.map (·.content), point.map (·.content)⟩

/-- A key of an elliptic curve in its envelope. The envelope names the curve. -/
def ofEnvelope? (v : Envelope) : Option Elliptic := do
  let curve ← (next nameTag).all v.parameters
  let e ← reader.all v.key
  -- the key may name its curve too, but no other
  guard (e.curve.all (· == curve.content))
  return { e with curve := some curve.content }

/-- The public key on a curve as certificates write it. -/
def writePublic (c : Curve) (point : Bytes) : Bytes :=
  write sequenceTag (write sequenceTag (write nameTag ellipticName ++ write nameTag c.name) ++
    write bitsTag (0 :: point))

/-- The public key on a curve. A point beside the number must be the point of the number. -/
def publicOn? (e : Elliptic) (c : Curve) : Option Bytes := do
  let point ← (c.point e.secret).map c.pointBytes
  guard (e.point.all (· == 0 :: point))
  return writePublic c point

/-- The public key on the first curve that the key may belong to. -/
def publicKey? (e : Elliptic) : Option Bytes :=
  (Curve.all.filter (fun c => e.curve.all (· == c.name))).findSome? e.publicOn?

end Elliptic

/-! ### Other kinds -/

/-- The public key of a key of two primes, if the key can be used. -/
def twoPrimes? (key : Bytes) : Option Bytes :=
  (Rsa.reader.all key).bind (fun k => if k.usable then some k.publicKey else none)

/-- The public key of a seed for the twisted curve. A public key beside it must be that of the seed. -/
def twisted? (v : Envelope) : Option Bytes := do
  guard v.parameters.isEmpty
  let seed ← (next bytesTag).all v.key
  guard (seed.content.length == TwistedCurve.seedLength)
  let point := TwistedCurve.publicBytes seed.content
  guard (v.publicKey.all (· == 0 :: point))
  return write sequenceTag (write sequenceTag (write nameTag TwistedCurve.name) ++
    write bitsTag (0 :: point))

/-- The public key of a key in its envelope. -/
def enveloped? (v : Envelope) : Option Bytes :=
  if v.kind == Rsa.name then
    if v.parameters == Rsa.noParameters then twoPrimes? v.key else none
  else if v.kind == ellipticName then (Elliptic.ofEnvelope? v).bind Elliptic.publicKey?
  else if v.kind == TwistedCurve.name then twisted? v
  else none

/-! ### Keys -/

/-- What follows the head of the outer value. -/
def afterHead (key : Bytes) : Bytes :=
  match key with
  | _ :: n :: r => if n < 128 then r else r.drop (n.toNat - 128)
  | _ => []

/-- **The public key that belongs to a private key**, if the key can be used. How a key is written
shows at its beginning. -/
def publicKey? (key : Bytes) : Option Bytes :=
  match afterHead key with
  | 0x02 :: 0x01 :: _ :: 0x30 :: _ => (envelope.all key).bind enveloped?
  | 0x02 :: 0x01 :: 0x00 :: _ => twoPrimes? key
  | 0x02 :: 0x01 :: 0x01 :: _ => (Elliptic.reader.all key).bind Elliptic.publicKey?
  | _ => none

end ModuleHost.PrivateKey
