import ModuleHost.Tls.Certificate
import ModuleHost.Tls.Pem
import ModuleHost.Tls.PrivateKey

/-!
# What reads key files

The library that takes certificates and keys out of files and makes contexts of them. A host relies on nothing but
whether it succeeds.

* `Tls.Library`: what a host asks of it.
* `Tls.Library.strict`: one that can be run. It takes the usual kinds of keys, and no key that does not belong to
  the certificate.
-/

namespace ModuleHost.Tls

/-- **A library that reads key files.** -/
structure Library where
  /-- How many certificates a file has, or what is wrong with it. -/
  certificates : Bytes → Except String Nat
  /-- Whether a file has a private key, or what is wrong with it. -/
  hasPrivateKey : Bytes → Except String Bool
  /-- Why no context can be made of the certificates of one file and the key of another, if none can. -/
  refusal? : Bytes → Bytes → Option String
  deriving Inhabited

namespace Library

/-- Whether a key belongs to the first certificate. -/
def belong (certificates : List Bytes) (key : Bytes) : Bool :=
  match certificates.head?.bind Certificate.publicKey?, PrivateKey.publicKey? key with
  | some c, some k => c == k
  | _, _ => false

/-- **A library that can be run.** -/
def strict : Library where
  certificates file := ((Pem.certificates file).map List.length).mapError PemFault.message
  hasPrivateKey file := (Pem.hasPrivateKey file).mapError PemFault.message
  refusal? certFile keyFile :=
    match Pem.certificates certFile, Pem.privateKeys keyFile with
    | .ok certificates, [key] =>
      if belong certificates key then none else some "the key does not belong to the certificate"
    | _, _ => some "private key format not supported"

end Library

end ModuleHost.Tls
