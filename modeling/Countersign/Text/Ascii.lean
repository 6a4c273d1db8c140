/-!
# Letter case and characters of plain ASCII

Scheme names, header names and link relations are compared without regard to the case of the
26 ASCII letters and of no other letter.  This file defines:

* `Text.lower`, `Text.upper` — the ASCII case maps on strings;
* `Text.sameLetters` — equality up to ASCII case;
* the character classes `isAlpha`, `isAlnum`, `isHexDigit` restricted to ASCII.
-/

namespace Countersign
namespace Text

/-- ASCII letters become small, every other character stays. -/
def lower (s : String) : String := String.ofList (s.toList.map Char.toLower)

/-- ASCII letters become capital, every other character stays. -/
def upper (s : String) : String := String.ofList (s.toList.map Char.toUpper)

/-- Two texts are the same up to the case of ASCII letters. -/
def sameLetters (a b : String) : Bool := lower a == lower b

/-- An ASCII letter. -/
def isAlpha (c : Char) : Bool := c.isAlpha

/-- An ASCII letter or digit. -/
def isAlnum (c : Char) : Bool := c.isAlphanum

/-- An ASCII hexadecimal digit in either case. -/
def isHexDigit (c : Char) : Bool :=
  c.isDigit || ('a' ≤ c && c ≤ 'f') || ('A' ≤ c && c ≤ 'F')

/-- A character of the ASCII range. -/
def isAscii (c : Char) : Bool := c.val < 128

/-- The value of a hexadecimal digit. -/
def hexValue? (c : Char) : Option Nat :=
  if c.isDigit then some (c.toNat - 48)
  else if 'a' ≤ c && c ≤ 'f' then some (c.toNat - 87)
  else if 'A' ≤ c && c ≤ 'F' then some (c.toNat - 55)
  else none

theorem sameLetters_refl (a : String) : sameLetters a a = true := by
  simp [sameLetters]

theorem sameLetters_comm (a b : String) : sameLetters a b = sameLetters b a := by
  simp [sameLetters, Bool.beq_comm]

theorem sameLetters_iff {a b : String} : sameLetters a b = true ↔ lower a = lower b := by
  simp [sameLetters]

end Text
end Countersign
