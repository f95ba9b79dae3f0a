/-!
# Residues

Arithmetic modulo a number. Quotients are those of the field of a prime.

* `power`, `quotient`, `difference`.
-/

namespace ModuleHost.Residue

/-- A power modulo a number. -/
def power (m b e : Nat) : Nat :=
  if e = 0 then 1 % m
  else
    let h := power m (b * b % m) (e / 2)
    if e % 2 = 1 then b * h % m else h

/-- The quotient in the field of a prime. -/
def quotient (p a b : Nat) : Nat :=
  a % p * power p (b % p) (p - 2) % p

/-- The difference modulo a number. -/
def difference (p a b : Nat) : Nat :=
  (a + (p - b % p)) % p

end ModuleHost.Residue
