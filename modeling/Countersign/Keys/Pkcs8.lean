import Countersign.Crypto.Ecdsa

/-!
# Private key structures

A private key is a nested structure of tagged values.  The outer one names the kind of key and its
curve; the inner one holds the secret number and the public point, which must belong together.

* `Der.value?` — reads one tagged value;
* `Pkcs8.key?` — the secret number of a key on a curve, and its public point.
-/

namespace Countersign
namespace Der

/-- The length of a value, in the shortest of its forms. -/
def length? : Bytes → Option (Nat × Bytes)
  | [] => none
  | b :: bs =>
    if b < 0x80 then some (b.toNat, bs)
    else
      match b, bs with
      | 0x81, c :: r => if c < 0x80 then none else some (c.toNat, r)
      | 0x82, c :: d :: r =>
        let n := c.toNat * 256 + d.toNat
        if n < 256 then none else some (n, r)
      | _, _ => none

/-- Reads a value with a tag: its octets and the rest. -/
def value? (tag : UInt8) : Bytes → Option (Bytes × Bytes)
  | [] => none
  | b :: bs => do
    if b != tag then none
    let (n, r) ← length? bs
    if r.length < n then none else some (r.take n, r.drop n)

/-- Reads a value with a tag that nothing follows. -/
def whole? (tag : UInt8) (bs : Bytes) : Option Bytes :=
  match value? tag bs with
  | some (v, []) => some v
  | _ => none

end Der

namespace Pkcs8

def curveName (c : Curve) : Bytes :=
  if c.size == 32 then [0x06, 0x08, 0x2a, 0x86, 0x48, 0xce, 0x3d, 0x03, 0x01, 0x07]
  else [0x06, 0x05, 0x2b, 0x81, 0x04, 0x00, 0x22]

/-- The octets that name the kind of key. -/
def kind (c : Curve) : Bytes :=
  [0x06, 0x07, 0x2a, 0x86, 0x48, 0xce, 0x3d, 0x02, 0x01] ++ curveName c

/-- Passes over an optional value. -/
def skip? (tag : UInt8) (bs : Bytes) : Option (Option Bytes × Bytes) :=
  if bs.head? == some tag then (Der.value? tag bs).map fun (v, r) => (some v, r)
  else some (none, bs)

/-- The inner structure: the octets of the secret number and those of the public point. -/
def inner? (c : Curve) (bs : Bytes) : Option (Bytes × Bytes) := do
  let bs ← Der.whole? 0x30 bs
  let (version, bs) ← Der.value? 0x02 bs
  if version != [1] then none
  let (secret, bs) ← Der.value? 0x04 bs
  let (curve, bs) ← skip? 0xa0 bs
  if curve.any (· != curveName c) then none
  -- the point must be there, although the structure could do without it
  let point ← Der.whole? 0xa1 bs
  match ← Der.whole? 0x03 point with
  | 0 :: point => some (secret, point)
  | _ => none

/-- The outer structure: the octets of the inner one. -/
def outer? (c : Curve) (bs : Bytes) : Option Bytes := do
  let bs ← Der.whole? 0x30 bs
  let (version, bs) ← Der.value? 0x02 bs
  if version != [0] then none
  let (kind', bs) ← Der.value? 0x30 bs
  if kind' != kind c then none
  let (key, bs) ← Der.value? 0x04 bs
  match ← skip? 0xa0 bs with
  | (_, []) => some key
  | _ => none

def pointOctets (c : Curve) (p : Nat × Nat) : Bytes :=
  4 :: Octets.ofNat c.size p.1 ++ Octets.ofNat c.size p.2

/-- The secret number of a key on a curve and its public point. -/
def key? (c : Curve) (bs : Bytes) : Option (Nat × Nat × Nat) := do
  let (secret, point) ← inner? c (← outer? c bs)
  let n := Octets.toNat secret
  if secret.length != c.size || n == 0 || n ≥ c.order then none
  let p ← Ecdsa.publicPoint? c n
  if pointOctets c p == point then some (n, p.1, p.2) else none

end Pkcs8
end Countersign
