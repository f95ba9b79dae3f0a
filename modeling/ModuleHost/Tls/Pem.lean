import ModuleHost.Text.Utf8
import ModuleHost.Tls.Base64

/-!
# Sections of key files

A key file is text with sections between a line that names their begin and one that names their end.
All else is passed over.

* `Pem.sections`: the sections of a file with what is wrong with it, in order.
-/

namespace ModuleHost

/-- What a section holds. -/
inductive PemKind where
  | certificate
  | publicKey
  | rsaKey
  | pkcs8Key
  | ecKey
  | revocationList
  | signingRequest
  deriving DecidableEq, Inhabited

/-- What is wrong with a key file. -/
inductive PemFault where
  | illegalBegin
  | missingEnd
  | badContent
  deriving DecidableEq, Inhabited

def PemFault.message : PemFault → String
  | illegalBegin => "illegal section start"
  | missingEnd => "section end missing"
  | badContent => "section content is not base64"

namespace PemKind

/-- The kinds by their labels. Other sections are passed over. -/
def labels : List (String × PemKind) :=
  [("CERTIFICATE", certificate), ("PUBLIC KEY", publicKey), ("RSA PRIVATE KEY", rsaKey),
    ("PRIVATE KEY", pkcs8Key), ("EC PRIVATE KEY", ecKey), ("X509 CRL", revocationList),
    ("CERTIFICATE REQUEST", signingRequest)]

def ofLabel? (label : Bytes) : Option PemKind :=
  (labels.find? (fun e => Text.Utf8.encode e.1 == label)).map (·.2)

def isPrivateKey : PemKind → Bool
  | rsaKey | pkcs8Key | ecKey => true
  | _ => false

end PemKind

/-- A section: its kind and its content. -/
structure PemItem where
  kind : PemKind
  content : Bytes
  deriving DecidableEq, Inhabited

namespace Pem

/-- Lines with the sign that ends them. -/
def lines : Bytes → List Bytes
  | [] => []
  | c :: r =>
    if c == 10 || c == 13 then [c] :: lines r
    else
      match lines r with
      | [] => [[c]]
      | l :: ls => (c :: l) :: ls

/-- What a line that begins a section starts with. -/
def beginMark : Bytes := Text.Utf8.encode "-----BEGIN "

def dashes : Bytes := Text.Utf8.encode "-----"

/-- The line that ends a section. -/
def endMark (label : Bytes) : Bytes :=
  Text.Utf8.encode "-----END " ++ label ++ dashes

/-- The signs at the end of a line, in reverse, that are dashes or blanks. -/
def isTrailer (c : UInt8) : Bool :=
  c == 45 || c == 32 || c == 10 || c == 13

/-- The label of a section that a line begins: what stands before exactly five dashes. -/
def label? (line : Bytes) : Option Bytes :=
  let trailer := (line.reverse.takeWhile isTrailer).reverse
  let blanks := trailer.takeWhile (· != 45)
  if trailer.count 45 = 5 then
    some ((line.take (line.length - trailer.length + blanks.length)).drop beginMark.length)
  else none

/-- What is known in the midst of a file. -/
structure State where
  /-- The label of the section at this place. -/
  label : Option Bytes := none
  content : Bytes := []
  /-- What was found, the last first. -/
  found : List (Except PemFault PemItem) := []

namespace State

/-- Add what was found and start anew. -/
def add (s : State) (r : Except PemFault PemItem) : State :=
  { found := r :: s.found }

/-- The section ends. -/
def close (s : State) (label : Bytes) : State :=
  match PemKind.ofLabel? label with
  | none => { found := s.found }
  | some kind =>
    match Base64.decode? s.content with
    | some content => s.add (.ok ⟨kind, content⟩)
    | none => s.add (.error .badContent)

/-- Read one line. A section that begins within another one takes its place. -/
def line (s : State) (l : Bytes) : State :=
  if beginMark.isPrefixOf l then
    match label? l with
    | some label => { s with label := some label }
    | none => s.add (.error .illegalBegin)
  else
    match s.label with
    | none => s
    | some label =>
      if (endMark label).isPrefixOf l then s.close label else { s with content := s.content ++ l }

/-- The end of the file. -/
def finish (s : State) : State :=
  match s.label with
  | none => s
  | some _ => s.add (.error .missingEnd)

end State

/-- **The sections of a file.** -/
def sections (file : Bytes) : List (Except PemFault PemItem) :=
  ((lines file).foldl State.line {}).finish.found.reverse

/-- The certificates, unless something is wrong with the file. -/
def certificates (file : Bytes) : Except PemFault (List Bytes) :=
  ((sections file).mapM id).map (fun items =>
    (items.filter (·.kind == .certificate)).map (·.content))

/-- Whether there is a private key, unless something is wrong before it. -/
def hasPrivateKey (file : Bytes) : Except PemFault Bool :=
  match (sections file).find? (fun
    | .ok item => item.kind.isPrivateKey
    | .error _ => true) with
  | none => .ok false
  | some (.ok _) => .ok true
  | some (.error f) => .error f

/-- All private keys. What is wrong with other sections does not matter. -/
def privateKeys (file : Bytes) : List Bytes :=
  (sections file).filterMap (fun
    | .ok item => if item.kind.isPrivateKey then some item.content else none
    | .error _ => none)

end Pem

end ModuleHost
