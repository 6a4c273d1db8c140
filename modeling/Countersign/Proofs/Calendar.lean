import Countersign.Instant
import Mathlib.Order.Interval.Set.Basic
import Mathlib.Order.Monotone.Basic
import Mathlib.Algebra.Order.SuccPred

/-!
# Calendar — the moments that can be represented

A moment can be represented if its second lies between two fixed bounds.  The bounds are meant as years of
the calendar, and years are found by division: the days from 1 March of the year 0 are cut into eras of 400
years, and the year within the era comes from a quotient that the leap days correct.  This file shows that
the quotient is the year, for every day, and that the bounds are the years that they are meant to be:

* `Instant.marchFirst` — the days up to 1 March of a year, from the count of leap days;
* `Instant.newYear` — the first day of a year;
* `Instant.le_year_iff` — the year of a day is the last one that has begun;
* `Instant.inRange_iff` — a second can be represented if its year has at most six digits and lies within
  the bounds.
-/

namespace Countersign
namespace Instant

/-! ## Days before a year -/

/-- The days from 1 March of the year 0 to 1 March of a year. -/
def marchFirst (y : Int) : Int := 365 * y + y / 4 - y / 100 + y / 400

/-- The first day of a year, counted from 1970-01-01. -/
def newYear (y : Int) : Int := marchFirst (y - 1) + 306 - 719468

theorem marchFirst_succ (y : Int) :
    marchFirst (y + 1) = marchFirst y + 365 + ((y + 1) / 4 - y / 4) - ((y + 1) / 100 - y / 100) +
      ((y + 1) / 400 - y / 400) := by
  unfold marchFirst
  omega

theorem marchFirst_add_le (y : Int) : marchFirst y + 365 ≤ marchFirst (y + 1) := by
  unfold marchFirst
  omega

theorem marchFirst_mono {a b : Int} (h : a ≤ b) : marchFirst a ≤ marchFirst b := by
  refine monotone_int_of_le_succ (f := marchFirst) ?_ h
  intro y
  have hstep := marchFirst_add_le y
  omega

/-- The calendar repeats itself in every era. -/
theorem marchFirst_era (era y : Int) :
    marchFirst (400 * era + y) = 146097 * era + marchFirst y := by
  have hfour : (400 * era + y) / 4 = 100 * era + y / 4 := by omega
  have hhundred : (400 * era + y) / 100 = 4 * era + y / 100 := by omega
  have hera : (400 * era + y) / 400 = era + y / 400 := by omega
  rw [marchFirst, marchFirst, hfour, hhundred, hera]
  omega

/-! ## Days of an era

A day of an era is the day `d` of the year `k` in the cycle `q` of four years in the century `c`.  A leap day
is the last one of its cycle, and that of a whole century comes only at the end of the era. -/

section

variable {c q k d : Nat}

theorem exists_day {n : Nat} (h : n < 146097) :
    ∃ c q k d, n = 36524 * c + 1461 * q + 365 * k + d ∧ c ≤ 3 ∧ q ≤ 24 ∧ k ≤ 3 ∧ d ≤ 365 ∧
      (d = 365 → k = 3) ∧ (1461 * q + 365 * k + d = 36524 → c = 3) := by
  obtain ⟨c, r, hn, hc, hr, hcentury⟩ : ∃ c r, n = 36524 * c + r ∧ c ≤ 3 ∧ r ≤ 36524 ∧
      (r = 36524 → c = 3) := by
    by_cases hlast : n = 146096
    · exact ⟨3, 36524, hlast, by omega, by omega, by omega⟩
    · exact ⟨n / 36524, n % 36524, by omega, by omega, by omega, by omega⟩
  obtain ⟨k, d, hcycle, hk, hd, hleap⟩ : ∃ k d, r % 1461 = 365 * k + d ∧ k ≤ 3 ∧ d ≤ 365 ∧
      (d = 365 → k = 3) := by
    by_cases hlast : r % 1461 = 1460
    · exact ⟨3, 365, hlast, by omega, by omega, by omega⟩
    · exact ⟨r % 1461 / 365, r % 1461 % 365, by omega, by omega, by omega, by omega⟩
  exact ⟨c, r / 1461, k, d, by omega, hc, by omega, hk, hd, hleap, by omega⟩

theorem marchFirst_yearOfEra (hc : c ≤ 3) (hq : q ≤ 24) (hk : k ≤ 3) :
    marchFirst (100 * c + 4 * q + k : Nat) = (36524 * c + 1461 * q + 365 * k : Nat) := by
  have hfour : ((100 * c + 4 * q + k : Nat) : Int) / 4 = 25 * c + q := by omega
  have hhundred : ((100 * c + 4 * q + k : Nat) : Int) / 100 = c := by omega
  have hera : ((100 * c + 4 * q + k : Nat) : Int) / 400 = 0 := by omega
  rw [marchFirst, hfour, hhundred, hera]
  omega

/-- The day comes before the next 1 March. -/
theorem day_lt_marchFirst (hq : q ≤ 24) (hc : c ≤ 3) (hk : k ≤ 3) (hd : d ≤ 365)
    (hleap : d = 365 → k = 3) (hcentury : 1461 * q + 365 * k + d = 36524 → c = 3) :
    ((36524 * c + 1461 * q + 365 * k + d : Nat) : Int) <
      marchFirst ((100 * c + 4 * q + k : Nat) + 1) := by
  rw [marchFirst_succ, marchFirst_yearOfEra hc hq hk]
  by_cases hlast : d = 365
  · cases hleap hlast
    subst hlast
    have hfour : (((100 * c + 4 * q + 3 : Nat) : Int) + 1) / 4 -
        ((100 * c + 4 * q + 3 : Nat) : Int) / 4 = 1 := by omega
    rw [hfour]
    by_cases hcycle : q = 24
    · -- the leap day of a whole century is the last day of the era
      subst hcycle
      cases hcentury rfl
      decide
    · have hhundred : (((100 * c + 4 * q + 3 : Nat) : Int) + 1) / 100 -
          ((100 * c + 4 * q + 3 : Nat) : Int) / 100 = 0 := by omega
      have hera : (((100 * c + 4 * q + 3 : Nat) : Int) + 1) / 400 -
          ((100 * c + 4 * q + 3 : Nat) : Int) / 400 = 0 := by omega
      rw [hhundred, hera]
      omega
  · generalize ((100 * c + 4 * q + k : Nat) : Int) = y
    have hcount : 0 ≤ ((y + 1) / 4 - y / 4) - ((y + 1) / 100 - y / 100) := by omega
    have hera : 0 ≤ (y + 1) / 400 - y / 400 := by omega
    omega

/-- The quotient that is corrected by the leap days is the year of the era. -/
theorem quotient_eq (hc : c ≤ 3) (hq : q ≤ 24) (hk : k ≤ 3) (hd : d ≤ 365) (hleap : d = 365 → k = 3)
    (hcentury : 1461 * q + 365 * k + d = 36524 → c = 3) {n : Nat}
    (hn : n = 36524 * c + 1461 * q + 365 * k + d) :
    (n - n / 1460 + n / 36524 - n / 146096) / 365 = 100 * c + 4 * q + k := by
  -- one leap day for every cycle that is over, and `b` for the one that may be about to end
  obtain ⟨b, hcycles, hone, hbefore⟩ : ∃ b, n / 1460 = 25 * c + q + b ∧ b ≤ 1 ∧
      (b = 1 → k = 3 ∧ 1 ≤ d) := by
    by_cases hearly : 24 * c + q + 365 * k + d < 1460
    · refine ⟨0, Nat.div_eq_of_lt_le ?_ ?_, by omega, by omega⟩
      · omega
      · omega
    · refine ⟨1, Nat.div_eq_of_lt_le ?_ ?_, by omega, by omega⟩
      · omega
      · omega
  have hcenturies : n / 36524 - n / 146096 = c ∧ n / 146096 ≤ n / 36524 := by
    by_cases hlast : 1461 * q + 365 * k + d = 36524
    · have hthree := hcentury hlast
      have hend : n = 146096 := by omega
      rw [hend, hthree]
      decide
    · have hcentury' : n / 36524 = c := by
        refine Nat.div_eq_of_lt_le ?_ ?_
        · omega
        · omega
      have hera : n / 146096 = 0 := Nat.div_eq_of_lt (by omega)
      rw [hcentury', hera]
      omega
  have hsum : n - n / 1460 + n / 36524 - n / 146096 = 365 * (100 * c + 4 * q + k) + (d - b) := by
    generalize n / 36524 = x at hcenturies ⊢
    generalize n / 146096 = y at hcenturies ⊢
    rw [hcycles]
    omega
  rw [hsum]
  refine Nat.div_eq_of_lt_le ?_ ?_
  · omega
  · omega

end

/-! ## The year of a day -/

/-- A day lies `d` days behind a 1 March and before the next one, and from 1 January on it belongs to the
year of that next one. -/
theorem exists_march (day : Int) :
    ∃ y d : Int, day + 719468 = marchFirst y + d ∧ 0 ≤ d ∧ marchFirst y + d < marchFirst (y + 1) ∧
      (date day).1 = if 306 ≤ d then y + 1 else y := by
  have hfloor : (day + 719468).fdiv 146097 = (day + 719468) / 146097 :=
    Int.fdiv_eq_ediv_of_nonneg _ (by decide)
  unfold date
  dsimp only
  rw [hfloor]
  obtain ⟨n, hday, hlt⟩ : ∃ n : Nat, day + 719468 = 146097 * ((day + 719468) / 146097) + n ∧
      n < 146097 :=
    ⟨(day + 719468 - (day + 719468) / 146097 * 146097).toNat, by omega, by omega⟩
  have hrest : (day + 719468 - (day + 719468) / 146097 * 146097).toNat = n := by omega
  rw [hrest]
  generalize (day + 719468) / 146097 = era at hday ⊢
  rcases exists_day hlt with ⟨c, q, k, d, hn, hc, hq, hk, hd, hleap, hcentury⟩
  have hnext := day_lt_marchFirst hq hc hk hd hleap hcentury
  have hfirst := marchFirst_yearOfEra hc hq hk
  rw [quotient_eq hc hq hk hd hleap hcentury hn]
  have hbehind : n - (365 * (100 * c + 4 * q + k) + (100 * c + 4 * q + k) / 4 -
      (100 * c + 4 * q + k) / 100) = d := by
    have hfour : (100 * c + 4 * q + k) / 4 = 25 * c + q := by omega
    have hhundred : (100 * c + 4 * q + k) / 100 = c := by omega
    rw [hfour, hhundred]
    omega
  rw [hbehind]
  subst hn
  generalize 100 * c + 4 * q + k = y at hnext hfirst ⊢
  generalize 36524 * c + 1461 * q + 365 * k = m at hday hnext hfirst
  refine ⟨400 * era + y, d, ?_, by omega, ?_, ?_⟩
  · rw [marchFirst_era, hfirst]
    omega
  · have hera : marchFirst (400 * era + y + 1) = 146097 * era + marchFirst (y + 1) := by
      rw [← marchFirst_era, Int.add_assoc]
    rw [marchFirst_era, hfirst, hera]
    omega
  · by_cases hlate : 306 ≤ d
    · have hmonth : ¬ (5 * d + 2) / 153 < 10 := by omega
      have hearly : (5 * d + 2) / 153 - 9 ≤ 2 := by omega
      rw [if_neg hmonth, if_pos hearly, if_pos (by omega)]
      omega
    · have hmonth : (5 * d + 2) / 153 < 10 := by omega
      have hearly : ¬ (5 * d + 2) / 153 + 3 ≤ 2 := by omega
      rw [if_pos hmonth, if_neg hearly, if_neg (by omega)]
      omega

/-- The year of a day is the last one that has begun. -/
theorem le_year_iff {y day : Int} : y ≤ (date day).1 ↔ newYear y ≤ day := by
  rcases exists_march day with ⟨m, d, hday, hd, hnext, hyear⟩
  rw [hyear, newYear]
  have hyears : ∀ {a b : Int}, a ≤ b → marchFirst a ≤ marchFirst b := marchFirst_mono
  by_cases hlate : 306 ≤ d
  · rw [if_pos hlate]
    constructor
    · intro h
      have hbegun : marchFirst (y - 1) ≤ marchFirst m := hyears (by omega)
      omega
    · intro h
      by_contra hlt
      have hahead : marchFirst (m + 1) ≤ marchFirst (y - 1) := hyears (by omega)
      omega
  · rw [if_neg hlate]
    constructor
    · intro h
      have hbegun : marchFirst (y - 1) ≤ marchFirst (m - 1) := hyears (by omega)
      have hstep := marchFirst_add_le (m - 1)
      rw [Int.sub_add_cancel] at hstep
      omega
    · intro h
      by_contra hlt
      have hahead : marchFirst m ≤ marchFirst (y - 1) := hyears (by omega)
      omega

/-! ## Seconds -/

/-- The year of a second. -/
def year (seconds : Int) : Int := (date (seconds.fdiv 86400)).1

/-- Whether the year of a second can be represented. -/
def Datable (seconds : Int) : Prop := -262143 ≤ year seconds ∧ year seconds ≤ 262142

/-- The bounds of the seconds are bounds of the years. -/
theorem inRange_iff {seconds : Int} : inRange seconds = true ↔ Datable seconds := by
  have hday : seconds.fdiv 86400 = seconds / 86400 := Int.fdiv_eq_ediv_of_nonneg _ (by decide)
  have hfirst : -262143 ≤ year seconds ↔ -96465292 ≤ seconds / 86400 := by
    rw [year, le_year_iff, hday]
    exact Iff.rfl
  have hlast : 262143 ≤ year seconds ↔ 95026237 ≤ seconds / 86400 := by
    rw [year, le_year_iff, hday]
    exact Iff.rfl
  rw [inRange, Bool.and_eq_true, decide_eq_true_iff, decide_eq_true_iff, minSeconds, maxSeconds, Datable]
  omega

end Instant
end Countersign
