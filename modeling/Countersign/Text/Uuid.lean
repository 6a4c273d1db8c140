import Countersign.Text.Base64

/-!
# Random identifiers

A random identifier is written as 32 hexadecimal digits in five groups.  Six of its 128 bits are
fixed and say that the others are random.

* `Uuid.ofOctets` — the identifier made of sixteen random octets;
* `Uuid.isRandom` — whether a text is such an identifier.
-/

namespace Countersign
namespace Uuid

/-- Sets the bits that say that an identifier is random. -/
def mark (bs : Bytes) : Bytes :=
  bs.zipIdx.map fun (b, i) =>
    if i == 6 then (b &&& 0x0f) ||| 0x40
    else if i == 8 then (b &&& 0x3f) ||| 0x80
    else b

/-- The identifier made of sixteen random octets. -/
def ofOctets (bs : Bytes) : String :=
  let digits := (Hex.encode (mark bs)).toList
  let group (start size : Nat) : List Char := (digits.drop start).take size
  String.ofList (group 0 8 ++ '-' :: group 8 4 ++ '-' :: group 12 4 ++ '-' :: group 16 4 ++ '-' ::
    group 20 12)

/-- Whether a character is a small hexadecimal digit. -/
def isSmallHex (c : Char) : Bool := c.isDigit || ('a' ≤ c && c ≤ 'f')

/-- Whether a text is a random identifier in small digits. -/
def isRandom (s : String) : Bool :=
  let cs := s.toList
  cs.length == 36 && (cs.zipIdx.all fun (c, i) =>
    if [8, 13, 18, 23].contains i then c == '-'
    else if i == 14 then c == '4'
    else if i == 19 then "89ab".toList.contains c
    else isSmallHex c)

end Uuid
end Countersign
