import ModuleHost.Text.Numeral
import ModuleHost.Text.Split

/-!
# Network addresses

* `IpAddress.parse?`, `IpAddress.text`: addresses of both families in their usual notation.
* `SocketAddress.parse?`, `SocketAddress.text`: addresses with a port.
-/

namespace ModuleHost.Net

/-- **An address** of four octets or of eight groups of sixteen bits. -/
inductive IpAddress where
  | v4 (a b c d : UInt8)
  | v6 (groups : List UInt16)
  deriving DecidableEq, Inhabited

namespace IpAddress

/-! ### Reading -/

/-- One octet in decimal: at most three digits, and no zero in front of others. -/
def octet? (cs : List Char) : Option UInt8 :=
  if 3 < cs.length ∨ (cs.head? = some '0' ∧ 1 < cs.length) then none
  else ((Text.Numeral.read? cs).filter (· < 256)).map Nat.toUInt8

/-- Four octets between dots. -/
def v4? (cs : List Char) : Option IpAddress :=
  match (Text.splitAll '.' cs).map octet? with
  | [some a, some b, some c, some d] => some (.v4 a b c d)
  | _ => none

/-- The value of a hexadecimal digit. -/
def hexDigit? (c : Char) : Option Nat :=
  if c.isDigit then some (c.toNat - '0'.toNat)
  else if 'a' ≤ c ∧ c ≤ 'f' then some (c.toNat - 'a'.toNat + 10)
  else if 'A' ≤ c ∧ c ≤ 'F' then some (c.toNat - 'A'.toNat + 10)
  else none

/-- One group: one to four hexadecimal digits. -/
def group? (cs : List Char) : Option UInt16 :=
  if cs.isEmpty ∨ 4 < cs.length then none
  else (cs.mapM hexDigit?).map (fun ds => (ds.foldl (fun n d => n * 16 + d) 0).toUInt16)

/-- The two groups that four octets fill. -/
def groupsOfV4 : IpAddress → List UInt16
  | v4 a b c d => [a.toUInt16 * 256 + b.toUInt16, c.toUInt16 * 256 + d.toUInt16]
  | v6 _ => []

/-- The groups between colons; the last piece may be four octets, if `octets` allows it. -/
def groups? (octets : Bool) : List (List Char) → Option (List UInt16)
  | [] => some []
  | [p] =>
    match if octets then v4? p else none with
    | some a => some (groupsOfV4 a)
    | none => (group? p).map ([·])
  | p :: ps => do
    let g ← group? p
    let gs ← groups? octets ps
    return g :: gs

/-- The groups of a text that may be empty. -/
def groupText? (octets : Bool) (cs : List Char) : Option (List UInt16) :=
  if cs.isEmpty then some [] else groups? octets (Text.splitAll ':' cs)

/-- Eight groups between colons; one pair of colons stands for at least one group of zeros. -/
def v6? (cs : List Char) : Option IpAddress :=
  match Text.splitAt? [':', ':'] cs with
  | none => ((groupText? true cs).filter (·.length = 8)).map v6
  | some (front, back) => do
    let front ← groupText? false front
    let back ← groupText? true back
    guard (front.length + back.length < 8)
    return v6 (front ++ List.replicate (8 - front.length - back.length) 0 ++ back)

/-- **Reading an address** of either family. -/
def parse? (s : String) : Option IpAddress :=
  v4? s.toList <|> v6? s.toList

/-! ### Writing -/

def hexText (g : UInt16) : String :=
  String.ofList (Nat.toDigits 16 g.toNat)

/-- How many zeros stand at the start. -/
def leadingZeros (gs : List UInt16) : Nat :=
  (gs.takeWhile (· == 0)).length

/-- The longest run of zeros, the first of several, as its place and its length. -/
def longestZeros (place : Nat) : List UInt16 → Nat × Nat
  | [] => (place, 0)
  | g :: gs =>
    let here := leadingZeros (g :: gs)
    let later := longestZeros (place + 1) gs
    if later.2 ≤ here then (place, here) else later

def groupsText (gs : List UInt16) : String :=
  String.intercalate ":" (gs.map hexText)

/-- The four octets in two groups. -/
def octetsText (g h : UInt16) : String :=
  s!"{g.toNat / 256}.{g.toNat % 256}.{h.toNat / 256}.{h.toNat % 256}"

/-- **The address as text**: the longest run of two or more groups of zeros is left out, and octets
that are carried in groups are shown as such. -/
def text : IpAddress → String
  | v4 a b c d => s!"{a.toNat}.{b.toNat}.{c.toNat}.{d.toNat}"
  | v6 [0, 0, 0, 0, 0, 0xffff, g, h] => "::ffff:" ++ octetsText g h
  | v6 gs =>
    let (place, count) := longestZeros 0 gs
    if count < 2 then groupsText gs
    else groupsText (gs.take place) ++ "::" ++ groupsText (gs.drop (place + count))

/-- Whether the address has four octets. -/
def isV4 : IpAddress → Bool
  | v4 .. => true
  | v6 _ => false

/-- The address that stands for every address of the machine. -/
def isWildcard : IpAddress → Bool
  | v4 a b c d => a == 0 && b == 0 && c == 0 && d == 0
  | v6 gs => gs.all (· == 0)

/-- Whether a listener on one of the addresses takes connections to the other one. The wildcard of
eight groups also stands for every address of four octets. -/
def overlaps (x y : IpAddress) : Bool :=
  x == y || (x.isWildcard && (!x.isV4 || y.isV4)) || (y.isWildcard && (!y.isV4 || x.isV4))

/-- Whether the address leads back to the machine that asks for it. -/
def isLoopback : IpAddress → Bool
  | v4 a _ _ _ => a == 127
  | v6 gs => gs == [0, 0, 0, 0, 0, 0, 0, 1]

end IpAddress

/-- **An address with a port.** -/
structure SocketAddress where
  ip : IpAddress
  port : UInt16
  deriving DecidableEq, Inhabited

namespace SocketAddress

/-- The address as text. -/
def text (a : SocketAddress) : String :=
  if a.ip.isV4 then s!"{a.ip.text}:{a.port.toNat}" else s!"[{a.ip.text}]:{a.port.toNat}"

/-- The port at the end of an address. -/
def portText? (cs : List Char) : Option UInt16 :=
  ((Text.Numeral.read? cs).filter (· < UInt16.size)).map Nat.toUInt16

/-- **Reading an address with its port.** One of the second family stands in brackets. -/
def parse? (s : String) : Option SocketAddress := do
  let (front, port) ← Text.splitLast? ':' s.toList
  let port ← portText? port
  let ip ←
    match front with
    | '[' :: r => (Text.stripBack? [']'] r).bind IpAddress.v6?
    | r => IpAddress.v4? r
  return ⟨ip, port⟩

end SocketAddress

end ModuleHost.Net
