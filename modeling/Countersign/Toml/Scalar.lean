import Countersign.Text.Ascii
import Countersign.Toml.Basic

/-!
# Numbers, moments and truth values

A value that is neither quoted nor bracketed is one word.  Its form decides what it is: the forms
exclude each other.

* `Scalar.integer?`, `Scalar.decimal?` — numbers; single underscores may stand between digits;
* `Scalar.moment?` — a date, a time, or both with an offset;
* `Scalar.ofWord?` — the value of a word.
-/

namespace Countersign
namespace Toml
namespace Scalar

open Text

/-! ## Numbers -/

/-- The digits of a run in which single underscores may stand between digits. -/
def ungroup? (isDigit : Char → Bool) : List Char → Option (List Char)
  | [] => none
  | [c] => if isDigit c then some [c] else none
  | c :: '_' :: r => if isDigit c then (ungroup? isDigit r).map (c :: ·) else none
  | c :: r => if isDigit c then (ungroup? isDigit r).map (c :: ·) else none

def digits? (cs : List Char) : Option (List Char) := ungroup? Char.isDigit cs

/-- The digits of a run that has no leading zero. -/
def whole? (cs : List Char) : Option (List Char) :=
  match digits? cs with
  | some ('0' :: _ :: _) => none
  | other => other

def valueOf (base : Nat) (ds : List Char) : Nat :=
  ds.foldl (fun n c => n * base + (hexValue? c).getD 0) 0

/-- Sign and rest of a number; no sign counts as plus. -/
def sign : List Char → Bool × List Char
  | '-' :: r => (true, r)
  | '+' :: r => (false, r)
  | r => (false, r)

/-- An integer that is written without a base: in hexadecimal after `0x`, in octal after `0o`, in
binary after `0b`. -/
def unlimited? : List Char → Option Int
  | '0' :: 'x' :: r => (ungroup? isHexDigit r).map fun ds => valueOf 16 ds
  | '0' :: 'o' :: r => (ungroup? (fun c => '0' ≤ c && c ≤ '7') r).map fun ds => valueOf 8 ds
  | '0' :: 'b' :: r => (ungroup? (fun c => c == '0' || c == '1') r).map fun ds => valueOf 2 ds
  | cs =>
    let (negative, r) := sign cs
    (whole? r).map fun ds => if negative then -(valueOf 10 ds : Int) else valueOf 10 ds

/-- An integer of at most 128 bits. -/
def integer? (cs : List Char) : Option Int :=
  (unlimited? cs).filter fun n => -(Nat.pow 2 127 : Int) ≤ n && n < Nat.pow 2 128

/-- The digits of an exponent, with its sign. -/
def exponent? (cs : List Char) : Option (List Char) :=
  match cs with
  | '-' :: r => (digits? r).map ('-' :: ·)
  | '+' :: r => digits? r
  | r => digits? r

/-- The literal of a number with a fraction or an exponent, without underscores. -/
def finite? (cs : List Char) : Option (List Char) := do
  let isMark (c : Char) : Bool := c == 'e' || c == 'E'
  let mantissa := cs.takeWhile fun c => !isMark c
  let power := cs.dropWhile fun c => !isMark c
  let whole ← whole? (mantissa.takeWhile (· != '.'))
  let fraction ← match mantissa.dropWhile (· != '.') with
    | [] => some []
    | _ :: r => (digits? r).map ('.' :: ·)
  let exponent ← match power with
    | [] => some []
    | _ :: r => (exponent? r).map ('e' :: ·)
  if fraction.isEmpty && exponent.isEmpty then none
  else some (whole ++ fraction ++ exponent)

/-- A number that is no integer, if the nearest double is finite or the literal says otherwise. -/
def decimal? (cs : List Char) : Option String :=
  let (negative, r) := sign cs
  let shown (s : String) : String := if negative then "-" ++ s else s
  match String.ofList r with
  | "inf" => some (shown "inf")
  | "nan" => some (shown "nan")
  | _ => ((finite? r).filter fun l => (Decimal.ofLiteral l).fits).map fun l =>
      shown (String.ofList l)

/-! ## Moments -/

def twoDigits? : List Char → Option (Nat × List Char)
  | a :: b :: r => if a.isDigit && b.isDigit then some (valueOf 10 [a, b], r) else none
  | _ => none

/-- A two-digit number that has a character in front. -/
def twoAfter? (mark : Char) : List Char → Option (Nat × List Char)
  | c :: r => if c == mark then twoDigits? r else none
  | [] => none

def daysIn (year month : Nat) : Nat :=
  match month with
  | 2 => if year % 4 == 0 && (year % 100 != 0 || year % 400 == 0) then 29 else 28
  | 4 | 6 | 9 | 11 => 30
  | _ => 31

/-- A date at the start: its literal, and the rest. -/
def date? (cs : List Char) : Option (List Char × List Char) := do
  let (century, r) ← twoDigits? cs
  let (year, r) ← twoDigits? r
  let (month, r) ← twoAfter? '-' r
  let (day, r) ← twoAfter? '-' r
  if 1 ≤ month && month ≤ 12 && 1 ≤ day && day ≤ daysIn (century * 100 + year) month then
    some (cs.take 10, r)
  else none

/-- A fraction of a second: at most nine digits of it count, and no zeros at its end. -/
def fraction? : List Char → Option (List Char × List Char)
  | '.' :: r =>
    match r.takeWhile Char.isDigit with
    | [] => none
    | ds =>
      let counted := ((ds.take 9).reverse.dropWhile (· == '0')).reverse
      some ('.' :: counted, r.dropWhile Char.isDigit)
  | r => some ([], r)

/-- A time of day at the start: its literal, and the rest. Seconds may be left out. -/
def time? (cs : List Char) : Option (List Char × List Char) := do
  let (hour, r) ← twoDigits? cs
  let (minute, r) ← twoAfter? ':' r
  if hour > 23 || minute > 59 then none
  match r with
  | ':' :: _ =>
    let (second, r) ← twoAfter? ':' r
    if second > 60 then none
    let (fraction, r) ← fraction? r
    return (cs.take 8 ++ fraction, r)
  | _ => return (cs.take 5, r)

/-- An offset from universal time, which has to be all that is left. -/
def offset? : List Char → Option (List Char)
  | [] => some []
  | ['Z'] => some ['Z']
  | ['z'] => some ['Z']
  | s :: r => do
    if s != '+' && s != '-' then none
    let (hour, r') ← twoDigits? r
    let (minute, r'') ← twoAfter? ':' r'
    if r''.isEmpty && hour ≤ 23 && minute ≤ 59 then some (s :: r) else none

/-- The literal of a moment: a date and a time are joined by `T`, `t` or a space, and only both together
may have an offset. -/
def moment? (cs : List Char) : Option String :=
  match date? cs with
  | some (date, []) => some (String.ofList date)
  | some (date, c :: r) =>
    if c == 'T' || c == 't' || c == ' ' then do
      let (time, r) ← time? r
      let offset ← offset? r
      return String.ofList (date ++ ['T'] ++ time ++ offset)
    else none
  | none =>
    match time? cs with
    | some (time, []) => some (String.ofList time)
    | _ => none

/-! ## Words -/

def ofWord? (cs : List Char) : Option Toml :=
  match String.ofList cs with
  | "true" => some (.boolean true)
  | "false" => some (.boolean false)
  | _ =>
    ((integer? cs).map Toml.integer).or <|
      ((decimal? cs).map Toml.decimal).or <| (moment? cs).map Toml.moment

end Scalar
end Toml
end Countersign
