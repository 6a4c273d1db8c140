import Countersign.Crypto.Digest

/-!
# Signatures on a twisted curve

The curve -x² + y² = 1 + d·x²·y² over the field of 2²⁵⁵ - 19.  A point is written as its y coordinate
in 32 octets, the least significant first, with the parity of x in the highest bit.

* `Edwards.verify` — checks a signature.
-/

namespace Countersign
namespace Edwards

def field : Nat := Nat.pow 2 255 - 19

/-- How many points the group of the base point has. -/
def order : Nat := Nat.pow 2 252 + 27742317777372353535851937790883648493

def constant : Nat :=
  Modular.sub field 0 (121665 * Modular.inverse field 121666 % field)

def rootOfMinusOne : Nat := Modular.power field 2 ((field - 1) / 4)

/-- A point x/z, y/z with the product t = x·y/z. -/
structure Point where
  x : Nat
  y : Nat
  z : Nat
  t : Nat

namespace Point

def neutral : Point := ⟨0, 1, 1, 0⟩

/-- The sum of two points. -/
def add (p q : Point) : Point :=
  let a := Modular.sub field p.y p.x * Modular.sub field q.y q.x % field
  let b := (p.y + p.x) * (q.y + q.x) % field
  let c := 2 * p.t * q.t * constant % field
  let d := 2 * p.z * q.z % field
  let e := Modular.sub field b a
  let f := Modular.sub field d c
  let g := (d + c) % field
  let h := (b + a) % field
  ⟨e * f % field, g * h % field, f * g % field, e * h % field⟩

def scale (n : Nat) (p : Point) : Point :=
  if h : n = 0 then neutral
  else
    let half := scale (n / 2) p
    let whole := half.add half
    if n % 2 = 1 then whole.add p else whole
termination_by n
decreasing_by omega

/-- The point with the opposite x. -/
def negate (p : Point) : Point :=
  { p with x := Modular.sub field 0 p.x, t := Modular.sub field 0 p.t }

def toOctets (p : Point) : Bytes :=
  let i := Modular.inverse field p.z
  let x := p.x * i % field
  let y := p.y * i % field
  (Octets.ofNat 32 (y + Nat.pow 2 255 * (x % 2))).reverse

/-- The point that octets spell; the y coordinate is taken modulo the field. -/
def ofOctets? (bs : Bytes) : Option Point :=
  let n := Octets.toNat bs.reverse
  let y := n % Nat.pow 2 255 % field
  let yy := y * y % field
  let u := Modular.sub field yy 1
  let v := (constant * yy + 1) % field
  let w := u * Modular.inverse field v % field
  let root := Modular.power field w ((field + 3) / 8)
  let x? :=
    if root * root % field == w then some root
    else
      let other := root * rootOfMinusOne % field
      if other * other % field == w then some other else none
  x?.map fun x =>
    let x := if x % 2 == n / Nat.pow 2 255 then x else Modular.sub field 0 x
    ⟨x, y, 1, x * y % field⟩

def base : Point :=
  let y := 4 * Modular.inverse field 5 % field
  (ofOctets? (Octets.ofNat 32 y).reverse).getD neutral

end Point

/-- Whether a signature belongs to a message under a public key. -/
def verify (key message signature : Bytes) : Bool :=
  if key.length != 32 || signature.length != 64 then false
  else
    let s := Octets.toNat (signature.drop 32).reverse
    match Point.ofOctets? key with
    | none => false
    | some a =>
      if s < order then
        let h := Octets.toNat (Digest.sha512.hash (signature.take 32 ++ key ++ message)).reverse
        let sum := (Point.scale s Point.base).add (Point.scale (h % order) a.negate)
        sum.toOctets == signature.take 32
      else false

end Edwards
end Countersign
