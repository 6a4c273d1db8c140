/-!
# Punycode

Host labels beyond ASCII are written as `xn--` and the ASCII form of RFC 3492.  Both directions
are driven by one generalized variable-length integer whose digits are bounded by a threshold
that adapts to the last delta.

* `Punycode.encode` — the ASCII form of a label;
* `Punycode.decode?` — the label of an ASCII form.
-/

namespace Countersign
namespace Punycode

/-- The digit of a value below 36. -/
def digit (n : Nat) : Char := if n < 26 then Char.ofNat (97 + n) else Char.ofNat (22 + n)

/-- The value of a digit in either letter case. -/
def value? (c : Char) : Option Nat :=
  if c.isDigit then some (c.toNat - 22)
  else if 'a' ≤ c && c ≤ 'z' then some (c.toNat - 97)
  else if 'A' ≤ c && c ≤ 'Z' then some (c.toNat - 65)
  else none

/-- Divides a delta by 35 until it is small; `k` counts 36 per division. -/
def adaptLoop : Nat → Nat → Nat → Nat
  | 0, delta, k => k + 36 * delta / (delta + 38)
  | fuel + 1, delta, k =>
    if delta > 455 then adaptLoop fuel (delta / 35) (k + 36) else k + 36 * delta / (delta + 38)

/-- The bias after a delta. -/
def adapt (delta points : Nat) (first : Bool) : Nat :=
  let d := if first then delta / 700 else delta / 2
  adaptLoop 32 (d + d / points) 0

/-- The threshold of the digit at weight step `k`. -/
def threshold (k bias : Nat) : Nat := if k ≤ bias then 1 else if k ≥ bias + 26 then 26 else k - bias

def encodeDelta : Nat → Nat → Nat → Nat → List Char
  | 0, _, _, _ => []
  | fuel + 1, q, k, bias =>
    let t := threshold k bias
    if q < t then [digit q]
    else digit (t + (q - t) % (36 - t)) :: encodeDelta fuel ((q - t) / (36 - t)) (k + 36) bias

/-- The state of an encoding: the delta so far, the bias, the number of written points, and the
digits so far in reverse. -/
structure Encoding where
  delta : Nat
  bias : Nat
  handled : Nat
  out : List Char

/-- Passes once over the label for one code point `m`. -/
def encodePoint (basic m : Nat) (label : List Char) (e : Encoding) : Encoding :=
  label.foldl (fun e c =>
    if c.toNat < m then { e with delta := e.delta + 1 }
    else if c.toNat = m then
      { delta := 0
        bias := adapt e.delta (e.handled + 1) (e.handled == basic)
        handled := e.handled + 1
        out := (encodeDelta 32 e.delta 36 e.bias).reverse ++ e.out }
    else e) e

/-- The least code point of the label that is at least `n`. -/
def leastFrom (n : Nat) (label : List Char) : Option Nat :=
  (label.filter fun c => c.toNat ≥ n).foldl (fun m c =>
    match m with
    | none => some c.toNat
    | some k => some (min k c.toNat)) none

/-- Handles the code points from `n` upwards, one distinct point per step. -/
def encodeFrom : Nat → Nat → Nat → List Char → Encoding → List Char
  | 0, _, _, _, e => e.out.reverse
  | fuel + 1, n, basic, label, e =>
    match leastFrom n label with
    | none => e.out.reverse
    | some m =>
      let e := encodePoint basic m label
        { e with delta := e.delta + (m - n) * (e.handled + 1) }
      encodeFrom fuel (m + 1) basic label { e with delta := e.delta + 1 }

/-- The ASCII form of a label, without its `xn--`. -/
def encode (label : List Char) : List Char :=
  let basic := label.filter (·.toNat < 128)
  let start := if basic.isEmpty then [] else basic ++ ['-']
  start ++ encodeFrom label.length 128 basic.length label ⟨0, 72, basic.length, []⟩

/-- One delta from digits: its value and the rest. -/
def decodeDelta : Nat → Nat → Nat → Nat → List Char → Option (Nat × List Char)
  | i, w, k, bias, c :: r =>
    match value? c with
    | none => none
    | some d =>
      let i := i + d * w
      let t := threshold k bias
      if i ≥ 4294967296 then none
      else if d < t then some (i, r)
      else decodeDelta i (w * (36 - t)) (k + 36) bias r
  | _, _, _, _, [] => none

/-- Inserts the points that the digits spell. -/
def decodeFrom : Nat → Nat → Nat → Nat → List Char → List Char → Option (List Char)
  | _, _, _, _, out, [] => some out
  | 0, _, _, _, _, _ :: _ => none
  | fuel + 1, n, i, bias, out, c :: r =>
    match decodeDelta i 1 36 bias (c :: r) with
    | none => none
    | some (j, rest) =>
      let size := out.length + 1
      let bias := adapt (j - i) size (i == 0)
      let n := n + j / size
      let p := j % size
      if n < 0x110000 && !(0xD800 ≤ n && n < 0xE000) then
        decodeFrom fuel n (p + 1) bias (out.take p ++ Char.ofNat n :: out.drop p) rest
      else none

/-- The label of an ASCII form without its `xn--`. -/
def decode? (s : List Char) : Option (List Char) :=
  let tail := (s.reverse.takeWhile (· != '-')).reverse
  let basic := if s.contains '-' then s.take (s.length - tail.length - 1) else []
  if basic.all (·.toNat < 128) then decodeFrom s.length 128 0 72 basic tail else none

end Punycode
end Countersign
