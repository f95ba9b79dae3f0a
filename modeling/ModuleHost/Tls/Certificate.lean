import ModuleHost.Tls.Der

/-!
# Certificates

What a certificate says about the key of its owner.

* `Certificate.publicKey?`: the public key as the certificate writes it.
-/

namespace ModuleHost.Certificate

open Der

/-- The extensions that are understood, by their names: uses of the key, other names, constraints,
and where revocations are listed. -/
def knownExtensions : List Bytes :=
  [15, 17, 19, 30, 31, 37].map (fun n => [0x55, 0x1d, n])

/-- An extension. One that must be understood has to be known. -/
def extension : Reader Unit :=
  inside sequenceTag do
    let name ← next nameTag
    let critical ← next? flagTag
    let _ ← next bytesTag
    guard (critical.all (fun e => e.content == [0]) || knownExtensions.contains name.content)

/-- Extensions down to the end. -/
def extensions : Nat → Reader Unit
  | 0 => done
  | count + 1 => do
    if (← get).isEmpty then return ()
    else
      extension
      extensions count

/-- The extensions, if there are any. -/
def extensionField : Reader Unit := do
  match ← next? (fieldTag 3) with
  | none => return ()
  | some e =>
    match (next sequenceTag).all e.content with
    | none => failure
    | some list => guard ((extensions list.content.length).all list.content).isSome

/-- What the issuer signs, of which the way to sign and the public key are told. -/
def body : Reader (Bytes × Bytes) :=
  inside sequenceTag do
    let number ← inside (fieldTag 0) (next integerTag)
    guard (number.content == [2])
    let _ ← next integerTag
    let method ← next sequenceTag
    let _issuer ← next sequenceTag
    let _validity ← next sequenceTag
    let _subject ← next sequenceTag
    let key ← next sequenceTag
    let _ ← next? 0x81
    let _ ← next? 0x82
    extensionField
    return (method.written, key.written)

/-- A certificate, of which the public key is told. The way to sign is named twice. -/
def certificate : Reader Bytes :=
  inside sequenceTag do
    let (method, key) ← body
    let outer ← next sequenceTag
    guard (outer.written == method)
    let signature ← next bitsTag
    guard (wholeBytes? signature.content).isSome
    return key

/-- **The public key of a certificate**, if the certificate can be read. -/
def publicKey? (bs : Bytes) : Option Bytes :=
  certificate.all bs

end ModuleHost.Certificate
