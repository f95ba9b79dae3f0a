import ModuleHost.Storage.Disk

/-!
# Digests

The digest of 512 bits. It mixes the input into eight words, block by block, in rounds whose constants
are the first 64 bits after the point of roots of primes.

* `Digest.ofBytes`: the digest of some bytes.
-/

namespace ModuleHost.Digest

/-! ### Constants -/

/-- The largest number below `front + 2 ^ bits` whose `k`-th power is at most `n`, bit by bit. -/
def rootFrom (k n : Nat) : Nat → Nat → Nat
  | 0, front => front
  | bits + 1, front =>
    let next := front + (1 <<< bits)
    rootFrom k n bits (if Nat.pow next k ≤ n then next else front)

/-- The first 64 bits after the point of the `k`-th root of a number of few bits. -/
def rootBits (k n : Nat) : UInt64 :=
  (rootFrom k (n <<< (64 * k)) 72 0).toUInt64

def isPrime (n : Nat) : Bool :=
  2 ≤ n && (List.range n).all (fun d => d < 2 || n % d != 0)

/-- As many primes as there are rounds. -/
def primes : List Nat :=
  (List.range 410).filter isPrime

/-- The constants of the rounds. -/
def roundConstants : List UInt64 :=
  primes.map (rootBits 3)

/-! ### Mixing -/

/-- **The words that are mixed.** -/
structure Words where
  a : UInt64
  b : UInt64
  c : UInt64
  d : UInt64
  e : UInt64
  f : UInt64
  g : UInt64
  h : UInt64
  deriving DecidableEq, Inhabited

/-- The bits of a word moved to the right, in a circle. -/
def turn (w n : UInt64) : UInt64 :=
  (w >>> n) ||| (w <<< (64 - n))

namespace Words

/-- The words at the start. -/
def start : Words :=
  ⟨rootBits 2 2, rootBits 2 3, rootBits 2 5, rootBits 2 7, rootBits 2 11, rootBits 2 13,
    rootBits 2 17, rootBits 2 19⟩

def add (s t : Words) : Words :=
  ⟨s.a + t.a, s.b + t.b, s.c + t.c, s.d + t.d, s.e + t.e, s.f + t.f, s.g + t.g, s.h + t.h⟩

/-- One round, with the sum of its constant and its word of the block. -/
def round (s : Words) (k : UInt64) : Words :=
  let chosen := (s.e &&& s.f) ^^^ (~~~s.e &&& s.g)
  let majority := (s.a &&& s.b) ^^^ (s.a &&& s.c) ^^^ (s.b &&& s.c)
  let front := s.h + (turn s.e 14 ^^^ turn s.e 18 ^^^ turn s.e 41) + chosen + k
  let back := (turn s.a 28 ^^^ turn s.a 34 ^^^ turn s.a 39) + majority
  ⟨front + back, s.a, s.b, s.c, s.d + front, s.e, s.f, s.g⟩

def toList (s : Words) : List UInt64 :=
  [s.a, s.b, s.c, s.d, s.e, s.f, s.g, s.h]

end Words

/-- The word that follows sixteen words of a block. -/
def following (ws : List UInt64) : UInt64 :=
  let w1 := ws.getD 1 0
  let w14 := ws.getD 14 0
  ws.getD 0 0 + (turn w1 1 ^^^ turn w1 8 ^^^ (w1 >>> 7)) + ws.getD 9 0 +
    (turn w14 19 ^^^ turn w14 61 ^^^ (w14 >>> 6))

/-- Rounds with their constants. The words of the block move on by one in each. -/
def rounds : List UInt64 → List UInt64 → Words → Words
  | [], _, s => s
  | k :: ks, ws, s => rounds ks (ws.drop 1 ++ [following ws]) (s.round (k + ws.getD 0 0))

/-- Mix in one block. -/
def block (s : Words) (ws : List UInt64) : Words :=
  s.add (rounds roundConstants ws s)

/-! ### Bytes -/

/-- Lists of a length, from the front. What is left over at the end is dropped. -/
def chunks {α : Type} (size : Nat) : Nat → List α → List (List α)
  | 0, _ => []
  | count + 1, xs => xs.take size :: chunks size count (xs.drop size)

/-- The word of eight bytes. -/
def wordOf (bs : Bytes) : UInt64 :=
  bs.foldl (fun w b => w <<< 8 ||| b.toUInt64) 0

/-- The eight bytes of a word. -/
def bytesOf (w : UInt64) : Bytes :=
  ([56, 48, 40, 32, 24, 16, 8, 0] : List UInt64).map (fun n => (w >>> n).toUInt8)

/-- The input with what fills up its last block: one bit, and at the end the count of its bits. -/
def filled (bs : Bytes) : Bytes :=
  bs ++ 0x80 :: List.replicate (127 - (bs.length + 16) % 128) 0 ++ List.replicate 8 0 ++
    bytesOf (8 * bs.length).toUInt64

/-- **The digest of some bytes.** -/
def ofBytes (bs : Bytes) : Bytes :=
  let input := filled bs
  let blocks := chunks 16 (input.length / 128) ((chunks 8 (input.length / 8) input).map wordOf)
  (blocks.foldl block Words.start).toList.flatMap bytesOf

end ModuleHost.Digest
