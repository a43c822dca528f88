/-!
Arithmetic modulo a number, on natural numbers below it.
-/

namespace TrustPath.Residue

def bits (n : Nat) : List Bool :=
  ((List.range (n.log2 + 1)).map n.testBit).reverse

def sub (m a b : Nat) : Nat :=
  (a + m - b) % m

/-- A power by squaring, one binary digit of the exponent after the other. -/
def pow (m base exponent : Nat) : Nat :=
  (bits exponent).foldl (fun r bit => if bit then r * r % m * base % m
    else r * r % m) (1 % m)

def inverse (p a : Nat) : Nat :=
  pow p a (p - 2)

end TrustPath.Residue
