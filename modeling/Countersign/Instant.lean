/-!
# Moments

Expirations and clock readings are moments on one time line, to the nanosecond.  Only moments
whose calendar year has at most six digits can be represented; sums that leave this range are
refused, never wrapped.

* `Instant` — a moment;
* `Instant.ofSeconds?`, `Instant.addSeconds?` — the checked ways to make one;
* `Instant.display` — the calendar form in universal time.
-/

namespace Countersign

/-- A moment: whole seconds since 1970 and a fraction in nanoseconds. -/
structure Instant where
  seconds : Int
  nanos : Nat := 0
deriving DecidableEq, Repr, Inhabited

namespace Instant

/-- The first representable second: the start of the year -262143. -/
def minSeconds : Int := -8334601228800

/-- The last representable second: the end of the year 262142. -/
def maxSeconds : Int := 8210266876799

/-- Whether a second can be represented. -/
def inRange (seconds : Int) : Bool := minSeconds ≤ seconds && seconds ≤ maxSeconds

/-- The largest number of seconds in a span: spans are counted in 64-bit milliseconds. -/
def maxSpanSeconds : Nat := 9223372036854775

/-- The moment of a second, if it can be represented. -/
def ofSeconds? (seconds : Int) (nanos : Nat := 0) : Option Instant :=
  if inRange seconds then some ⟨seconds, nanos⟩ else none

/-- The moment some seconds later, if both the span and the sum can be represented. -/
def addSeconds? (t : Instant) (span : Nat) : Option Instant :=
  if span ≤ maxSpanSeconds && inRange (t.seconds + span) then some ⟨t.seconds + span, t.nanos⟩
  else none

/-- The order of the time line. -/
def le (a b : Instant) : Bool :=
  a.seconds < b.seconds || (a.seconds == b.seconds && a.nanos ≤ b.nanos)

/-- The calendar date of a day counted from 1970-01-01. -/
def date (day : Int) : Int × Nat × Nat :=
  let z := day + 719468
  let era := z.fdiv 146097
  let doe := (z - era * 146097).toNat
  let yoe := (doe - doe / 1460 + doe / 36524 - doe / 146096) / 365
  let doy := doe - (365 * yoe + yoe / 4 - yoe / 100)
  let mp := (5 * doy + 2) / 153
  let d := doy - (153 * mp + 2) / 5 + 1
  let m := if mp < 10 then mp + 3 else mp - 9
  let y := (yoe : Int) + era * 400
  (if m ≤ 2 then y + 1 else y, m, d)

/-- Decimal digits, filled with zeros to a width. -/
def padded (width n : Nat) : String :=
  let ds := Nat.toDigits 10 n
  String.ofList (List.replicate (width - ds.length) '0' ++ ds)

/-- The fraction with three, six or nine digits, whichever is exact first. -/
def fraction (nanos : Nat) : String :=
  if nanos == 0 then ""
  else if nanos % 1000000 == 0 then "." ++ padded 3 (nanos / 1000000)
  else if nanos % 1000 == 0 then "." ++ padded 6 (nanos / 1000)
  else "." ++ padded 9 nanos

/-- A year has four digits, and a sign when it needs more. -/
def showYear (y : Int) : String :=
  if 0 ≤ y ∧ y ≤ 9999 then padded 4 y.toNat
  else (if y < 0 then "-" else "+") ++ padded 4 y.natAbs

/-- The calendar form in universal time. -/
def display (t : Instant) : String :=
  let day := t.seconds.fdiv 86400
  let rest := (t.seconds - day * 86400).toNat
  let (y, m, d) := date day
  showYear y ++ "-" ++ padded 2 m ++ "-" ++ padded 2 d ++ "T" ++ padded 2 (rest / 3600) ++ ":" ++
    padded 2 (rest / 60 % 60) ++ ":" ++ padded 2 (rest % 60) ++ fraction t.nanos ++ "Z"

theorem le_iff {a b : Instant} :
    a.le b = true ↔ a.seconds < b.seconds ∨ (a.seconds = b.seconds ∧ a.nanos ≤ b.nanos) := by
  simp [le]

theorem le_trans {a b c : Instant} (hab : a.le b = true) (hbc : b.le c = true) :
    a.le c = true := by
  rw [le_iff] at *
  omega

end Instant
end Countersign
