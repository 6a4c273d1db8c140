/-!
# The size of a decimal number

A number with a fraction or an exponent is only looked at as far as it must fit a double-precision
float.  The size of the number is compared exactly; the exponent is looked at first, so that a literal
like `1e999999999` costs no more than it is long.

* `Decimal` — digits and a power of ten;
* `Decimal.ofLiteral` — the number that a literal writes;
* `Decimal.fits` — whether the nearest double is finite.
-/

namespace Countersign

/-- The absolute value of a decimal number: `digits` times ten to the power `exponent`. -/
structure Decimal where
  digits : List Char
  exponent : Int
deriving DecidableEq, Repr, Inhabited

namespace Decimal

/-- The value of decimal digits. -/
def natural (ds : List Char) : Nat := ds.foldl (fun n c => n * 10 + (c.toNat - '0'.toNat)) 0

/-- The number without sign that digits, perhaps with a point and an exponent, write. -/
def ofLiteral (literal : List Char) : Decimal :=
  let isMark (c : Char) : Bool := c == 'e' || c == 'E'
  let unsigned := literal.dropWhile fun c => c == '+' || c == '-'
  let mantissa := unsigned.takeWhile fun c => !isMark c
  let whole := mantissa.takeWhile (· != '.')
  let fraction := (mantissa.dropWhile (· != '.')).drop 1
  let power : Int := match (unsigned.dropWhile fun c => !isMark c).drop 1 with
    | '-' :: ds => -(natural ds : Int)
    | '+' :: ds => natural ds
    | ds => natural ds
  ⟨(whole ++ fraction).dropWhile (· == '0'), power - fraction.length⟩

/-- The least natural number that is rounded to infinity. -/
def limit : Nat := Nat.pow 2 1024 - Nat.pow 2 970

def limitDigits : Int := 309

/-- Whether the nearest double is finite. -/
def fits (d : Decimal) : Bool :=
  let size : Int := d.digits.length + d.exponent
  if d.digits.isEmpty || size < limitDigits then true
  else if limitDigits < size then false
  else if 0 ≤ d.exponent then natural d.digits * Nat.pow 10 d.exponent.toNat < limit
  else natural d.digits < limit * Nat.pow 10 (-d.exponent).toNat

end Decimal
end Countersign
