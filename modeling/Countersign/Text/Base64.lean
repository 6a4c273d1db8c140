import Countersign.Text.Utf8

/-!
# Base64 and hexadecimal texts of bytes

Tokens write bytes in the URL-safe alphabet without padding; key documents use the standard
alphabet, whose padding may be left out.  Neither accepts a foreign character or an impossible
length.  In a token the bits that no byte uses have to be zero, so every byte sequence has exactly
one accepted text; in a key document they are ignored.

* `Base64.encodeUrl`, `Base64.decodeUrl?` — URL-safe, unpadded;
* `Base64.decodePadded?` — the standard alphabet with exact padding or none;
* `Hex.encode`, `Hex.decode?`.
-/

namespace Countersign
namespace Base64

/-- The digit of a six-bit value; the last two digits are those of the URL-safe alphabet. -/
def digit (n : Nat) : Char :=
  if n < 26 then Char.ofNat (65 + n)
  else if n < 52 then Char.ofNat (71 + n)
  else if n < 62 then Char.ofNat (n - 4)
  else if n == 62 then '-' else '_'

/-- The value of a digit; `c62` and `c63` are the last two digits of the alphabet. -/
def value? (c62 c63 : Char) (c : Char) : Option Nat :=
  if 'A' ≤ c && c ≤ 'Z' then some (c.toNat - 65)
  else if 'a' ≤ c && c ≤ 'z' then some (c.toNat - 71)
  else if '0' ≤ c && c ≤ '9' then some (c.toNat + 4)
  else if c == c62 then some 62
  else if c == c63 then some 63
  else none

/-- Three bytes become four digits; the last one or two bytes become two or three. -/
def encodeChars : Bytes → List Char
  | a :: b :: c :: r =>
    let n := a.toNat * 65536 + b.toNat * 256 + c.toNat
    digit (n / 262144) :: digit (n / 4096 % 64) :: digit (n / 64 % 64) :: digit (n % 64)
      :: encodeChars r
  | [a, b] =>
    let n := a.toNat * 256 + b.toNat
    [digit (n / 1024), digit (n / 16 % 64), digit (n % 16 * 4)]
  | [a] => [digit (a.toNat / 4), digit (a.toNat % 4 * 16)]
  | [] => []

/-- The URL-safe text of bytes, without padding. -/
def encodeUrl (bs : Bytes) : String := String.ofList (encodeChars bs)

/-- Four digits become three bytes; a tail of two or three digits is accepted when its unused
bits are zero or `loose` is set, a tail of one digit never. -/
def ofValues (loose : Bool) : List Nat → Option Bytes
  | a :: b :: c :: d :: r =>
    let n := a * 262144 + b * 4096 + c * 64 + d
    (ofValues loose r).map fun t =>
      UInt8.ofNat (n / 65536) :: UInt8.ofNat (n / 256 % 256) :: UInt8.ofNat (n % 256) :: t
  | [a, b, c] =>
    let n := a * 4096 + b * 64 + c
    if loose || n % 4 == 0 then some [UInt8.ofNat (n / 1024), UInt8.ofNat (n / 4 % 256)] else none
  | [a, b] =>
    let n := a * 64 + b
    if loose || n % 16 == 0 then some [UInt8.ofNat (n / 16)] else none
  | [_] => none
  | [] => some []

/-- The bytes of a URL-safe, unpadded text. -/
def decodeUrl? (s : String) : Option Bytes :=
  s.toList.mapM (value? '-' '_') >>= ofValues false

/-- The bytes of a text in the standard alphabet. It is padded to a multiple of four characters, or
not at all. -/
def decodePadded? (cs : List Char) : Option Bytes :=
  -- a text of another length has no padding, and a sign of it in the text is a foreign character
  let padding :=
    if cs.length % 4 == 0 then (cs.reverse.takeWhile (· == '=')).length else 0
  if padding > 2 then none
  else (cs.take (cs.length - padding)).mapM (value? '+' '/') >>= ofValues true

end Base64

namespace Hex

/-- A small hexadecimal digit. -/
def digit (n : Nat) : Char := if n < 10 then Char.ofNat (48 + n) else Char.ofNat (87 + n)

/-- Two small digits per byte. -/
def encode (bs : Bytes) : String :=
  String.ofList (bs.flatMap fun b => [digit (b.toNat / 16), digit (b.toNat % 16)])

theorem digit_injective {m n : Nat} (hm : m < 16) (hn : n < 16) (h : digit m = digit n) : m = n := by
  have hall : ∀ i j : Fin 16, digit i = digit j → i = j := by decide
  exact congrArg Fin.val (hall ⟨m, hm⟩ ⟨n, hn⟩ h)

/-- No two byte sequences have the same digits. -/
theorem encode_injective {a b : Bytes} (h : encode a = encode b) : a = b := by
  unfold encode at h
  rw [String.ofList_inj] at h
  induction a generalizing b with
  | nil =>
      cases b with
      | nil => rfl
      | cons y b => cases h
  | cons x a ih =>
      cases b with
      | nil => cases h
      | cons y b =>
          simp only [List.flatMap_cons, List.cons_append, List.nil_append, List.cons.injEq] at h
          rcases h with ⟨hhigh, hlow, hrest⟩
          have hx := x.toNat_lt
          have hy := y.toNat_lt
          have hdiv := digit_injective (by omega) (by omega) hhigh
          have hmod := digit_injective (by omega) (by omega) hlow
          have hxy : x = y := UInt8.toNat_inj.1 (by omega)
          rw [hxy, ih hrest]

end Hex
end Countersign
