import Countersign.Crypto.Modular

/-!
# Elliptic curves

The curves of proof keys are given by an equation y² = x³ - 3x + b over a prime field.  Points are
calculated with in projective form, where x and y carry denominators.

* `Curve` — the parameters of a curve, with `Curve.p256` and `Curve.p384`;
* `Curve.contains` — whether coordinates solve the equation;
* `Curve.scale` — a multiple of a point.
-/

namespace Countersign

/-- The parameters of a curve and of the group of its base point. -/
structure Curve where
  field : Nat
  constant : Nat
  baseX : Nat
  baseY : Nat
  /-- How many points the group has. -/
  order : Nat
  /-- Octets of a coordinate. -/
  size : Nat

/-- A point in projective form, with denominators z² of x and z³ of y; with z = 0 it is the point at
infinity. -/
structure Point where
  x : Nat
  y : Nat
  z : Nat
deriving Inhabited

namespace Point

def infinity : Point := ⟨1, 1, 0⟩

def isInfinity (p : Point) : Bool := p.z == 0

def ofCoordinates (x y : Nat) : Point := ⟨x, y, 1⟩

end Point

namespace Curve

/-- Whether coordinates solve the equation. -/
def contains (c : Curve) (x y : Nat) : Bool :=
  x < c.field && y < c.field &&
    y * y % c.field == Modular.sub c.field ((x * x * x + c.constant) % c.field) (3 * x % c.field)

def base (c : Curve) : Point := Point.ofCoordinates c.baseX c.baseY

def double (c : Curve) (a : Point) : Point :=
  let p := c.field
  if a.z == 0 || a.y == 0 then Point.infinity
  else
    let zz := a.z * a.z % p
    let yy := a.y * a.y % p
    let s := 4 * a.x * yy % p
    let m := 3 * (Modular.sub p a.x zz) * (a.x + zz) % p
    let x := Modular.sub p (m * m % p) (2 * s % p)
    ⟨x, Modular.sub p (m * Modular.sub p s x % p) (8 * yy * yy % p), 2 * a.y * a.z % p⟩

/-- The sum of two points. -/
def add (c : Curve) (a b : Point) : Point :=
  let p := c.field
  if a.isInfinity then b
  else if b.isInfinity then a
  else
    let za := a.z * a.z % p
    let zb := b.z * b.z % p
    let ua := a.x * zb % p
    let ub := b.x * za % p
    let sa := a.y * zb * b.z % p
    let sb := b.y * za * a.z % p
    if ua == ub then
      -- equal first coordinates: the same point, or opposite ones
      if sa == sb then c.double a else Point.infinity
    else
      let h := Modular.sub p ub ua
      let r := Modular.sub p sb sa
      let hh := h * h % p
      let hhh := h * hh % p
      let v := ua * hh % p
      let x := Modular.sub p (r * r % p) ((hhh + 2 * v) % p)
      ⟨x, Modular.sub p (r * Modular.sub p v x % p) (sa * hhh % p), a.z * b.z * h % p⟩

def scale (c : Curve) (n : Nat) (a : Point) : Point :=
  if h : n = 0 then Point.infinity
  else
    let half := c.double (c.scale (n / 2) a)
    if n % 2 = 1 then c.add half a else half
termination_by n
decreasing_by omega

/-- The coordinates of a point that is not at infinity. -/
def coordinates? (c : Curve) (a : Point) : Option (Nat × Nat) :=
  if a.isInfinity then none
  else
    let i := Modular.inverse c.field a.z
    let ii := i * i % c.field
    some (a.x * ii % c.field, a.y * ii * i % c.field)

/-- The curve over a field of 256 bits. -/
def p256 : Curve where
  field := 0xffffffff00000001000000000000000000000000ffffffffffffffffffffffff
  constant := 0x5ac635d8aa3a93e7b3ebbd55769886bc651d06b0cc53b0f63bce3c3e27d2604b
  baseX := 0x6b17d1f2e12c4247f8bce6e563a440f277037d812deb33a0f4a13945d898c296
  baseY := 0x4fe342e2fe1a7f9b8ee7eb4a7c0f9e162bce33576b315ececbb6406837bf51f5
  order := 0xffffffff00000000ffffffffffffffffbce6faada7179e84f3b9cac2fc632551
  size := 32

/-- The curve over a field of 384 bits. -/
def p384 : Curve where
  field := 0xfffffffffffffffffffffffffffffffffffffffffffffffffffffffffffffffeffffffff0000000000000000ffffffff
  constant := 0xb3312fa7e23ee7e4988e056be3f82d19181d9c6efe8141120314088f5013875ac656398d8a2ed19d2a85c8edd3ec2aef
  baseX := 0xaa87ca22be8b05378eb1c71ef320ad746e1d3b628ba79b9859f741e082542a385502f25dbf55296c3a545e3872760ab7
  baseY := 0x3617de4a96262c6f5d9e98bf9292dc29f8f41dbd289a147ce9da3113b5f0b8c00a60b1ce1d7e819d7a431d7c90ea0e5f
  order := 0xffffffffffffffffffffffffffffffffffffffffffffffffc7634d81f4372ddf581a0db248b0a77aecec196accc52973
  size := 48

end Curve
end Countersign
