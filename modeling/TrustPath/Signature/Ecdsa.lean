import TrustPath.Der.Value
import TrustPath.Digest
import TrustPath.Signature.Residue

/-!
ECDSA signatures over the curves P-256 and P-384, in projective coordinates
where `(x, y, z)` stands for the point `(x / z², y / z³)` and `z = 0` for the
point at infinity.
-/

namespace TrustPath.Ecdsa

open Der Residue

/-- A curve `y² = x³ - 3x + b` over a prime field, with a point of prime order.
Octets of field elements come in strings of one size. -/
structure Curve where
  field : Nat
  b : Nat
  order : Nat
  baseX : Nat
  baseY : Nat
  size : Nat

def p256 : Curve where
  field := 0xffffffff00000001000000000000000000000000ffffffffffffffffffffffff
  b := 0x5ac635d8aa3a93e7b3ebbd55769886bc651d06b0cc53b0f63bce3c3e27d2604b
  order := 0xffffffff00000000ffffffffffffffffbce6faada7179e84f3b9cac2fc632551
  baseX := 0x6b17d1f2e12c4247f8bce6e563a440f277037d812deb33a0f4a13945d898c296
  baseY := 0x4fe342e2fe1a7f9b8ee7eb4a7c0f9e162bce33576b315ececbb6406837bf51f5
  size := 32

def p384 : Curve where
  field :=
    0xfffffffffffffffffffffffffffffffffffffffffffffffffffffffffffffffeffffffff0000000000000000ffffffff
  b :=
    0xb3312fa7e23ee7e4988e056be3f82d19181d9c6efe8141120314088f5013875ac656398d8a2ed19d2a85c8edd3ec2aef
  order :=
    0xffffffffffffffffffffffffffffffffffffffffffffffffc7634d81f4372ddf581a0db248b0a77aecec196accc52973
  baseX :=
    0xaa87ca22be8b05378eb1c71ef320ad746e1d3b628ba79b9859f741e082542a385502f25dbf55296c3a545e3872760ab7
  baseY :=
    0x3617de4a96262c6f5d9e98bf9292dc29f8f41dbd289a147ce9da3113b5f0b8c00a60b1ce1d7e819d7a431d7c90ea0e5f
  size := 48

/-- A point in projective coordinates. -/
structure Point where
  x : Nat
  y : Nat
  z : Nat

namespace Curve

variable (c : Curve)

def infinity : Point :=
  ⟨1, 1, 0⟩

def base : Point :=
  ⟨c.baseX, c.baseY, 1⟩

/-- The square of the second coordinate of a point with the given first
coordinate. -/
def square (x : Nat) : Nat :=
  sub c.field (x * x % c.field * x + c.b) (3 * x % c.field)

def double (p : Point) : Point :=
  let m := c.field
  let delta := p.z * p.z % m
  let gamma := p.y * p.y % m
  let beta := p.x * gamma % m
  let alpha := 3 * sub m p.x delta * (p.x + delta) % m
  let x := sub m (alpha * alpha % m) (8 * beta % m)
  let z := sub m (sub m ((p.y + p.z) * (p.y + p.z) % m) gamma) delta
  ⟨x, sub m (alpha * sub m (4 * beta % m) x % m) (8 * gamma * gamma % m), z⟩

def add (p q : Point) : Point :=
  let m := c.field
  if p.z = 0 then q
  else if q.z = 0 then p
  else
    let pz := p.z * p.z % m
    let qz := q.z * q.z % m
    let px := p.x * qz % m
    let qx := q.x * pz % m
    let py := p.y * q.z % m * qz % m
    let qy := q.y * p.z % m * pz % m
    let h := sub m qx px
    let r := sub m qy py
    if h = 0 then (if r = 0 then c.double p else infinity)
    else
      let h2 := h * h % m
      let h3 := h2 * h % m
      let v := px * h2 % m
      let x := sub m (sub m (r * r % m) h3) (2 * v % m)
      ⟨x, sub m (r * sub m v x % m) (py * h3 % m), h * p.z % m * q.z % m⟩

/-- A multiple of a point, one binary digit of the scalar after the other. -/
def mul (scalar : Nat) (p : Point) : Point :=
  (bits scalar).foldl
    (fun r bit => if bit then c.add (c.double r) p else c.double r) infinity

/-- The first coordinate of a point; zero for the point at infinity. -/
def affineX (p : Point) : Nat :=
  let inv := inverse c.field p.z
  p.x * inv % c.field * inv % c.field

/-- One of the two points with a first coordinate, if there is one. -/
def pointAt? (x : Nat) : Option Point :=
  let root := pow c.field (c.square x) ((c.field + 1) / 4)
  if root * root % c.field = c.square x then some ⟨x, root, 1⟩ else none

def negate (p : Point) : Point :=
  ⟨p.x, sub c.field 0 p.y, p.z⟩

/-- Reads a point. After an octet 4 come both coordinates. After an octet 2, 3
or 5 comes the first; the second is then the even one, the odd one or the
smaller one. -/
def point? (octets : Bytes) : Option Point :=
  match octets with
  | [] => none
  | form :: rest =>
    let x := Bytes.toNat (rest.take c.size)
    if c.field ≤ x then none
    else if form = 4 ∧ rest.length = 2 * c.size then
      let y := Bytes.toNat (rest.drop c.size)
      if y < c.field ∧ y * y % c.field = c.square x then some ⟨x, y, 1⟩
        else none
    else if (form = 2 ∨ form = 3) ∧ rest.length = c.size then
      (c.pointAt? x).map fun p => if p.y % 2 = form.toNat % 2 then p
        else c.negate p
    else if form = 5 ∧ rest.length = c.size then
      (c.pointAt? x).map fun p => if p.y ≤ (c.negate p).y then p else c.negate p
    else none

end Curve

/-- The two numbers of a signature. -/
structure Signature where
  r : Nat
  s : Nat

/-- Reads a signature: a sequence of two integers above zero and below the
curve's order. -/
def signature? (c : Curve) (octets : Bytes) : Option Signature := do
  match ← (← element? octets).sequence? with
  | [r, s] =>
    let r := Bytes.toNat (← (← r.expect? .integer) |> magnitude?)
    let s := Bytes.toNat (← (← s.expect? .integer) |> magnitude?)
    if 0 < r ∧ r < c.order ∧ 0 < s ∧ s < c.order then return ⟨r, s⟩ else none
  | _ => none

/-- Whether a signature is one of a message with the given digest. Of the digest
the first octets count, as many as a field element has. -/
def verify (c : Curve) (key : Point) (digest : Bytes) (signature : Signature) :
    Bool :=
  let z := Bytes.toNat (digest.take c.size) % c.order
  let w := inverse c.order signature.s
  let p := c.add (c.mul (z * w % c.order) c.base)
      (c.mul (signature.r * w % c.order) key)
  p.z ≠ 0 && c.affineX p % c.order = signature.r

end TrustPath.Ecdsa
