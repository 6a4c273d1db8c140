import Countersign.Text.Utf8

/-!
# Numbers as octets and modulo another

* `Octets.toNat`, `Octets.ofNat` — a number and its octets, the most significant first;
* `Modular.power`, `Modular.inverse` — arithmetic modulo a number.
-/

namespace Countersign
namespace Octets

/-- The number that octets spell, the most significant first. -/
def toNat (bs : Bytes) : Nat := bs.foldl (fun n b => n * 256 + b.toNat) 0

/-- The last `count` octets of a number, the most significant first. -/
def ofNat (count n : Nat) : Bytes :=
  (List.range count).map fun i => UInt8.ofNat (n >>> (8 * (count - 1 - i)))

@[simp] theorem length_ofNat (count n : Nat) : (ofNat count n).length = count := by
  simp [ofNat]

end Octets

namespace Modular

/-- A power modulo `m`. -/
def power (m base exponent : Nat) : Nat :=
  if h : exponent = 0 then 1 % m
  else
    let half := power m (base * base % m) (exponent / 2)
    if exponent % 2 = 1 then base * half % m else half
termination_by exponent
decreasing_by omega

/-- The inverse modulo a prime; zero has the inverse zero. -/
def inverse (p a : Nat) : Nat := power p a (p - 2)

/-- A difference modulo `p` of numbers below `p`. -/
def sub (p a b : Nat) : Nat := (a + p - b) % p

/-- How many bits a number needs. -/
def bitLength (n : Nat) : Nat := if n = 0 then 0 else n.log2 + 1

end Modular
end Countersign
