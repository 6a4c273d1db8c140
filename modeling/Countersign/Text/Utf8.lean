/-!
# Bytes and the text they spell

Bodies and header values are octets.  They are read as UTF-8 in two ways: strictly, where one
bad octet spoils the text, and leniently, where every maximal invalid piece becomes U+FFFD.

* `Bytes` — a sequence of octets;
* `Utf8.units` — the characters and invalid pieces of a byte sequence, in order;
* `Utf8.decode?`, `Utf8.decodeLossy`, `Utf8.encode`.
-/

namespace Countersign

/-- A sequence of octets. -/
abbrev Bytes := List UInt8

namespace Utf8

/-- A character whose octets are not all read: how many are missing, the bounds of the next one,
and the bits read so far. -/
structure Pending where
  missing : Nat
  low : UInt8
  high : UInt8
  bits : Nat

/-- What the first octet of a character announces: a whole character, an open one, or nothing. -/
inductive Lead where
  | whole (c : Char)
  | opens (p : Pending)
  | invalid

/-- The bounds on the second octet rule out overlong forms, surrogates and values past U+10FFFF. -/
def lead (b : UInt8) : Lead :=
  if b < 0x80 then .whole (Char.ofNat b.toNat)
  else if b < 0xC2 then .invalid
  else if b < 0xE0 then .opens ⟨1, 0x80, 0xBF, b.toNat - 0xC0⟩
  else if b == 0xE0 then .opens ⟨2, 0xA0, 0xBF, 0⟩
  else if b == 0xED then .opens ⟨2, 0x80, 0x9F, 0xD⟩
  else if b < 0xF0 then .opens ⟨2, 0x80, 0xBF, b.toNat - 0xE0⟩
  else if b == 0xF0 then .opens ⟨3, 0x90, 0xBF, 0⟩
  else if b < 0xF4 then .opens ⟨3, 0x80, 0xBF, b.toNat - 0xF0⟩
  else if b == 0xF4 then .opens ⟨3, 0x80, 0x8F, 4⟩
  else .invalid

/-- Characters, and `none` for each maximal invalid piece. -/
def unitsFrom : Option Pending → Bytes → List (Option Char)
  | none, [] => []
  | some _, [] => [none]
  | none, b :: bs =>
    match lead b with
    | .whole c => some c :: unitsFrom none bs
    | .opens p => unitsFrom (some p) bs
    | .invalid => none :: unitsFrom none bs
  | some p, b :: bs =>
    if p.low ≤ b && b ≤ p.high then
      let bits := p.bits * 64 + (b.toNat - 0x80)
      if p.missing ≤ 1 then some (Char.ofNat bits) :: unitsFrom none bs
      else unitsFrom (some ⟨p.missing - 1, 0x80, 0xBF, bits⟩) bs
    else
      match lead b with
      | .whole c => none :: some c :: unitsFrom none bs
      | .opens q => none :: unitsFrom (some q) bs
      | .invalid => none :: none :: unitsFrom none bs

/-- The characters and invalid pieces of a byte sequence. -/
def units (bs : Bytes) : List (Option Char) := unitsFrom none bs

/-- The text, if every octet belongs to a character. -/
def decode? (bs : Bytes) : Option String := ((units bs).mapM id).map String.ofList

/-- The text, with U+FFFD for every maximal invalid piece. -/
def decodeLossy (bs : Bytes) : String :=
  String.ofList ((units bs).map (·.getD (Char.ofNat 0xFFFD)))

/-- The UTF-8 octets of one character. -/
def encodeChar (c : Char) : Bytes :=
  let n := c.toNat
  let tail (shift : Nat) : UInt8 := UInt8.ofNat (0x80 + (n >>> shift) % 64)
  if n < 0x80 then [UInt8.ofNat n]
  else if n < 0x800 then [UInt8.ofNat (0xC0 + (n >>> 6)), tail 0]
  else if n < 0x10000 then [UInt8.ofNat (0xE0 + (n >>> 12)), tail 6, tail 0]
  else [UInt8.ofNat (0xF0 + (n >>> 18)), tail 12, tail 6, tail 0]

/-- The UTF-8 octets of a text. -/
def encode (s : String) : Bytes := s.toList.flatMap encodeChar

/-- The octets of a character are those of the standard encoding. -/
theorem encodeChar_eq (c : Char) : encodeChar c = String.utf8EncodeChar c := by
  have hscalar : c.val.toNat < 0x110000 := by
    rcases c.valid with h | ⟨_, h⟩
    · exact Nat.lt_trans h (by decide)
    · exact h
  simp only [encodeChar, String.utf8EncodeChar, Char.toNat, Nat.shiftRight_eq_div_pow]
  generalize c.val.toNat = n at *
  by_cases hone : n < 0x80
  · rw [if_pos hone, if_pos (by omega)]
  · rw [if_neg hone, if_neg (show ¬ n ≤ 127 by omega)]
    by_cases htwo : n < 0x800
    · have hlead : n / 64 % 32 = n / 64 := Nat.mod_eq_of_lt (by omega)
      rw [if_pos htwo, if_pos (show n ≤ 2047 by omega), hlead]
      simp [Nat.add_comm]
    · rw [if_neg htwo, if_neg (show ¬ n ≤ 2047 by omega)]
      by_cases hthree : n < 0x10000
      · have hlead : n / 4096 % 16 = n / 4096 := Nat.mod_eq_of_lt (by omega)
        rw [if_pos hthree, if_pos (show n ≤ 65535 by omega), hlead]
        simp [Nat.add_comm]
      · have hlead : n / 262144 % 8 = n / 262144 := Nat.mod_eq_of_lt (by omega)
        rw [if_neg hthree, if_neg (show ¬ n ≤ 65535 by omega), hlead]
        simp [Nat.add_comm]

/-- No two texts have the same octets. -/
theorem encode_injective {s t : String} (h : encode s = encode t) : s = t := by
  have hstandard : ∀ r : String, (encode r).toByteArray = r.toByteArray := by
    intro r
    have hchars : encodeChar = String.utf8EncodeChar := funext encodeChar_eq
    rw [encode, hchars, ← String.utf8Encode_toList, List.utf8Encode]
  rw [← String.toByteArray_inj, ← hstandard, ← hstandard, h]

end Utf8
end Countersign
