import Countersign.Json.Basic
import Countersign.Text.Ascii
import Countersign.Text.Utf8

/-!
# Reading JSON

A document is read from its octets, because a string that nobody asks for may hold octets that
are no UTF-8.  Everything else follows RFC 8259: no leading zeros, no trailing commas, no bare
control characters in strings, and nothing but blanks behind the value.

* `Json.parse?` — the value of a document.
-/

namespace Countersign
namespace Json

/-- A blank between the parts of a document. -/
def isGap (b : UInt8) : Bool := b == 0x20 || b == 0x0A || b == 0x0D || b == 0x09

/-- The rest after blanks. -/
def skipGap (bs : Bytes) : Bytes := bs.dropWhile isGap

/-! ## Strings -/

/-- The character of an octet of the ASCII range. -/
def ascii (b : UInt8) : Char := Char.ofNat b.toNat

/-- A piece of a string: an octet as it stands, or a code unit from an escape. -/
inductive Piece where
  | octet (b : UInt8)
  | unit (n : Nat)

/-- The value of four hexadecimal digits. -/
def hex4 (a b c d : UInt8) : Option Nat :=
  match Text.hexValue? (ascii a), Text.hexValue? (ascii b), Text.hexValue? (ascii c),
      Text.hexValue? (ascii d) with
  | some w, some x, some y, some z => some (((w * 16 + x) * 16 + y) * 16 + z)
  | _, _, _, _ => none

def shortEscape? (b : UInt8) : Option UInt8 :=
  match ascii b with
  | '"' => some 0x22
  | '\\' => some 0x5C
  | '/' => some 0x2F
  | 'b' => some 0x08
  | 'f' => some 0x0C
  | 'n' => some 0x0A
  | 'r' => some 0x0D
  | 't' => some 0x09
  | _ => none

/-- The pieces of a string after its opening quote, last first, and the rest after the closing
one. -/
def pieces (acc : List Piece) : Bytes → Option (List Piece × Bytes)
  | [] => none
  | b :: r =>
    if b == 0x22 then some (acc, r)
    else if b == 0x5C then
      match r with
      | 0x75 :: w :: x :: y :: z :: t =>
        match hex4 w x y z with
        | some n => pieces (.unit n :: acc) t
        | none => none
      | e :: t =>
        match shortEscape? e with
        | some o => pieces (.octet o :: acc) t
        | none => none
      | [] => none
    else if b < 0x20 then none
    else pieces (.octet b :: acc) r

/-- The octets that pieces spell; a surrogate counts only as one of a pair. -/
def spell : List Piece → Option Bytes
  | [] => some []
  | .octet b :: r => (spell r).map (b :: ·)
  | .unit n :: r =>
    if 0xD800 ≤ n && n < 0xDC00 then
      match r with
      | .unit m :: t =>
        if 0xDC00 ≤ m && m < 0xE000 then
          (spell t).map (Utf8.encodeChar
            (Char.ofNat (0x10000 + (n - 0xD800) * 1024 + (m - 0xDC00))) ++ ·)
        else none
      | _ => none
    else if 0xDC00 ≤ n && n < 0xE000 then none
    else (spell r).map (Utf8.encodeChar (Char.ofNat n) ++ ·)

/-- A string after its opening quote. -/
def stringRest (bs : Bytes) : Option (Option String × Bytes) :=
  (pieces [] bs).map fun p => (spell p.1.reverse >>= Utf8.decode?, p.2)

/-! ## Numbers -/

def isDigit (b : UInt8) : Bool := 0x30 ≤ b && b ≤ 0x39

def digitsValue (bs : Bytes) : Nat := bs.foldl (fun n b => n * 10 + (b.toNat - 48)) 0

/-- A non-empty run of digits. -/
def digits (bs : Bytes) : Option (Bytes × Bytes) :=
  match bs.takeWhile isDigit with
  | [] => none
  | d => some (d, bs.dropWhile isDigit)

/-- A run of digits that has no leading zero. -/
def wholeDigits (bs : Bytes) : Option (Bytes × Bytes) :=
  match digits bs with
  | some (0x30 :: _ :: _, _) => none
  | other => other

/-- A point with digits, if there is a point. -/
def fraction (bs : Bytes) : Option (Bytes × Bytes) :=
  match bs with
  | 0x2E :: r => (digits r).map fun p => (0x2E :: p.1, p.2)
  | _ => some ([], bs)

/-- An exponent, if there is one. -/
def exponent (bs : Bytes) : Option (Bytes × Bytes) :=
  match bs with
  | b :: r =>
    if b == 0x65 || b == 0x45 then
      match r with
      | s :: t =>
        if s == 0x2B || s == 0x2D then (digits t).map fun p => (b :: s :: p.1, p.2)
        else (digits r).map fun p => (b :: p.1, p.2)
      | [] => none
    else some ([], bs)
  | [] => some ([], [])

def number (bs : Bytes) : Option (Json × Bytes) := do
  let (sign, r) : Bytes × Bytes := match bs with
    | 0x2D :: r => ([0x2D], r)
    | _ => ([], bs)
  let (whole, r) ← wholeDigits r
  let (frac, r) ← fraction r
  let (exp, r) ← exponent r
  let value := digitsValue whole
  -- a negative zero is no integer: its sign would be lost
  if frac.isEmpty && exp.isEmpty && !(value == 0 && !sign.isEmpty) then
    some (.integer (if sign.isEmpty then value else -value), r)
  else
    some (.decimal (String.ofList ((sign ++ whole ++ frac ++ exp).map ascii)), r)

/-! ## Values -/

/-- The rest after a fixed word. -/
def word (w : String) (bs : Bytes) : Option Bytes :=
  let octets := Utf8.encode w
  if bs.take octets.length == octets then some (bs.drop octets.length) else none

mutual

/-- A value at the start of the octets, after blanks. -/
def value : Nat → Bytes → Option (Json × Bytes)
  | 0, _ => none
  | fuel + 1, bs =>
    match skipGap bs with
    | [] => none
    | b :: r =>
      match ascii b with
      | '"' => (stringRest r).map fun p => (.text p.1, p.2)
      | '[' =>
        match skipGap r with
        | 0x5D :: t => some (.list [], t)
        | t => (items fuel t).map fun p => (.list p.1, p.2)
      | '\x7b' =>
        match skipGap r with
        | 0x7D :: t => some (.object [], t)
        | t => (fields fuel t).map fun p => (.object p.1, p.2)
      | 't' => (word "rue" r).map fun t => (.bool true, t)
      | 'f' => (word "alse" r).map fun t => (.bool false, t)
      | 'n' => (word "ull" r).map fun t => (.null, t)
      | _ => number (b :: r)

/-- The values of a list up to its closing bracket; there is at least one. -/
def items : Nat → Bytes → Option (List Json × Bytes)
  | 0, _ => none
  | fuel + 1, bs =>
    match value fuel bs with
    | none => none
    | some (j, r) =>
      match skipGap r with
      | 0x2C :: t => (items fuel t).map fun p => (j :: p.1, p.2)
      | 0x5D :: t => some ([j], t)
      | _ => none

/-- The fields of an object up to its closing brace; there is at least one. -/
def fields : Nat → Bytes → Option (List (Option String × Json) × Bytes)
  | 0, _ => none
  | fuel + 1, bs =>
    match skipGap bs with
    | 0x22 :: r =>
      match stringRest r with
      | none => none
      | some (key, r) =>
        match skipGap r with
        | 0x3A :: r =>
          match value fuel r with
          | none => none
          | some (j, r) =>
            match skipGap r with
            | 0x2C :: t => (fields fuel t).map fun p => ((key, j) :: p.1, p.2)
            | 0x7D :: t => some ([(key, j)], t)
            | _ => none
        | _ => none
    | _ => none

end

/-- The value of a document: one value with nothing but blanks around it. -/
def parse? (bs : Bytes) : Option Json :=
  match value (bs.length + 1) bs with
  | some (j, r) => if (skipGap r).isEmpty then some j else none
  | none => none

end Json
end Countersign
