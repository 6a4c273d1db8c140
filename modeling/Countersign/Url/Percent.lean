import Countersign.Text.Blank
import Countersign.Text.Utf8

/-!
# Percent-encoding

Each part of a URL has its own set of characters that stand for themselves; the octets of every
other character are written as `%XX`.

* `Percent.encode` — encoding against a set;
* `Percent.controls`, `query`, `specialQuery`, `fragment`, `path`, `userinfo` — the sets;
* `Percent.decode` — the octets that a text spells.
-/

namespace Countersign
namespace Percent

open Text

/-- A capital hexadecimal digit. -/
def digit (n : Nat) : Char := if n < 10 then Char.ofNat (48 + n) else Char.ofNat (55 + n)

/-- `%XX` for one octet. -/
def escapeByte (b : UInt8) : List Char := ['%', digit (b.toNat / 16), digit (b.toNat % 16)]

/-- Encodes the characters of a set and all characters beyond ASCII. -/
def encode (inSet : Char → Bool) (cs : List Char) : List Char :=
  cs.flatMap fun c =>
    if !isAscii c || inSet c then (Utf8.encodeChar c).flatMap escapeByte else [c]

def controls (c : Char) : Bool := c.toNat < 0x20 || c.toNat == 0x7F

def fragment (c : Char) : Bool := controls c || [' ', '"', '<', '>', '\x60'].contains c

/-- The set of queries. -/
def query (c : Char) : Bool := controls c || [' ', '"', '#', '<', '>'].contains c

/-- The set of queries under the special schemes. -/
def specialQuery (c : Char) : Bool := query c || c == '\''

def path (c : Char) : Bool := fragment c || ['#', '?', '\x7b', '\x7d'].contains c

/-- The set of user names and passwords. -/
def userinfo (c : Char) : Bool :=
  path c || ['/', ':', ';', '=', '@', '[', '\\', ']', '^', '|'].contains c

/-- The octets of a text in which `%XX` stands for one octet; an incomplete escape stands for
itself. -/
def decode : List Char → Bytes
  | '%' :: a :: b :: r =>
    match hexValue? a, hexValue? b with
    | some x, some y => UInt8.ofNat (x * 16 + y) :: decode r
    | _, _ => 0x25 :: decode (a :: b :: r)
  | c :: r => Utf8.encodeChar c ++ decode r
  | [] => []

/-! ## Form bodies -/

/-- A character that a form body writes as itself. -/
def isFormChar (c : Char) : Bool := isAlnum c || c == '*' || c == '-' || c == '.' || c == '_'

/-- One name or value of a form body: a blank becomes a plus sign. -/
def formText (s : String) : List Char :=
  s.toList.flatMap fun c =>
    if isFormChar c then [c] else if c == ' ' then ['+']
    else (Utf8.encodeChar c).flatMap escapeByte

/-- The `application/x-www-form-urlencoded` text of named values. -/
def form (fields : List (String × String)) : String :=
  String.ofList (['&'].intercalate (fields.map fun f => formText f.1 ++ '=' :: formText f.2))

end Percent
end Countersign
