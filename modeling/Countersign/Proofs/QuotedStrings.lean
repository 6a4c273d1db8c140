import Countersign.Proofs.ChallengeWriting
import Mathlib.Algebra.Group.Nat.Even
import Mathlib.Data.List.DropRight
import Mathlib.Data.List.Infix

/-!
# Quoted strings — one end for both scanners

A quoted string is read by one scanner and skipped by another: `quotedString` takes its value and
gives up at a bare control character, `skipUntil` only looks for its end on the way to a delimiter.
A parser that gives up on an element goes on where the skip ends, so both have to see the same end.
Here that end is described without either of them, by the backslashes in front of a quote:

* `Settled`, `Closes` — texts that hide nothing behind their end, and texts with a quote that
  nothing hides;
* `Closes.exists_first` — the first such quote;
* `whole_of_open`, `Quotes.exists_first` — how far a string extends that nothing closes, and one
  that was read;
* `quotes_agree` — both scanners end a string at its first quote that nothing hides.
-/

namespace Countersign
namespace Header

open Text

variable {t u w r s v : List Char} {c : Char}

/-! ## The end of a string -/

/-- The backslashes at the end of the text hide one another, so that none is left for what follows. -/
def Settled (u : List Char) : Prop := Even (u.rtakeWhile (· == '\\')).length

/-- The text behind an opening quote has a quote that no backslash hides. -/
def Closes (t : List Char) : Prop := ∃ u r, t = u ++ '"' :: r ∧ Settled u

instance (u : List Char) : Decidable (Settled u) :=
  inferInstanceAs (Decidable (Even (u.rtakeWhile (· == '\\')).length))

instance (t : List Char) : Decidable (Closes t) :=
  decidable_of_iff (∃ u ∈ t.inits, u ++ ['"'] <+: t ∧ Settled u) <| by
    constructor
    · rintro ⟨u, -, ⟨r, hr⟩, hu⟩
      exact ⟨u, r, by rw [← hr, List.append_assoc]; rfl, hu⟩
    · rintro ⟨u, r, rfl, hu⟩
      exact ⟨u, (List.mem_inits ..).2 (List.prefix_append ..), ⟨r, by simp⟩, hu⟩

theorem settled_concat_backslash : Settled (u ++ ['\\']) ↔ ¬ Settled u := by
  unfold Settled
  rw [List.rtakeWhile_concat_pos _ _ _ (by decide), List.length_append, List.length_singleton]
  exact Nat.even_add_one

theorem settled_concat (hc : c ≠ '\\') : Settled (u ++ [c]) := by
  unfold Settled
  rw [List.rtakeWhile_concat_neg _ _ _ (by simpa using hc)]
  decide

theorem not_closes_nil : ¬ Closes [] := by
  rintro ⟨u, r, h, _⟩
  simp at h

theorem closes_concat : Closes (t ++ [c]) ↔ Closes t ∨ c = '"' ∧ Settled t := by
  constructor
  · rintro ⟨u, r, h, hu⟩
    rcases List.eq_nil_or_concat r with rfl | ⟨r', d, rfl⟩
    · -- the quote is the last character
      have hlast := List.append_inj' h rfl
      have hc : c = '"' := by simpa using hlast.2
      exact .inr ⟨hc, hlast.1 ▸ hu⟩
    · have hsplit : t ++ [c] = (u ++ '"' :: r') ++ [d] := by simpa using h
      exact .inl ⟨u, r', (List.append_inj' hsplit rfl).1, hu⟩
  · rintro (⟨u, r, rfl, hu⟩ | ⟨rfl, ht⟩)
    · exact ⟨u, r ++ [c], by simp, hu⟩
    · exact ⟨t, [], rfl, ht⟩

/-- Of the quotes that nothing hides there is a first one. -/
theorem Closes.exists_first (h : Closes t) :
    ∃ u r, t = u ++ '"' :: r ∧ Settled u ∧ ¬ Closes u := by
  induction t using List.reverseRecOn with
  | nil => exact absurd h not_closes_nil
  | append_singleton t c ih =>
      by_cases ht : Closes t
      · rcases ih ht with ⟨u, r, rfl, hu, hopen⟩
        exact ⟨u, r ++ [c], by simp, hu, hopen⟩
      · rcases closes_concat.1 h with hclosed | ⟨rfl, hsettled⟩
        · exact absurd hclosed ht
        · exact ⟨t, [], rfl, hsettled, ht⟩

/-! ## Inside a string -/

/-- As long as no quote closes the string, the backslashes at the end tell where it stands. -/
theorem behind_of_open (h : ¬ Closes u) :
    Mode.quoted.behind u = if Settled u then .quoted else .hidden := by
  induction u using List.reverseRecOn with
  | nil => rfl
  | append_singleton u c ih =>
      rw [closes_concat, not_or, not_and] at h
      rw [Mode.behind_append, ih h.1]
      -- an odd number of backslashes hides the next character, and only a hidden one may be a quote
      by_cases hu : Settled u
      · have hquote : c ≠ '"' := fun hc => h.2 hc hu
        by_cases hc : c = '\\'
        · subst hc
          simp [hu, settled_concat_backslash, Mode.next]
        · simp [hu, settled_concat hc, Mode.next, hquote, hc]
      · -- the last character is hidden, whatever it is
        have hnext : Settled (u ++ [c]) := by
          by_cases hc : c = '\\'
          · rw [hc]
            exact settled_concat_backslash.2 hu
          · exact settled_concat hc
        simp [hu, hnext, Mode.next]

/-- A string that nothing closes goes on to the end of the text. -/
theorem whole_of_open (stop : Char → Bool) (h : ¬ Closes u) : Whole stop .quoted u := by
  induction u using List.reverseRecOn with
  | nil => trivial
  | append_singleton u c ih =>
      rw [closes_concat, not_or] at h
      refine whole_append.2 ⟨ih h.1, fun hout => ?_, trivial⟩
      rw [behind_of_open h.1] at hout
      split at hout <;> cases hout

/-- What was read of a quoted string ends with its first quote that nothing hides. -/
theorem Quotes.exists_first (h : Quotes w v) : ∃ u, w = u ++ ['"'] ∧ Settled u ∧ ¬ Closes u := by
  -- all of the string stands in quotes, and only its end outside
  rcases h.inside fun _ => true with ⟨hwhole, hout⟩
  have hclosed : Closes w := by
    by_contra hopen
    rw [behind_of_open hopen] at hout
    split at hout <;> cases hout
  rcases hclosed.exists_first with ⟨u, r, rfl, hu, hopen⟩
  -- the string ends at that quote, and nothing of what was read stands outside it
  have hend : Mode.quoted.behind (u ++ ['"']) = .outside := by
    rw [Mode.behind_append, behind_of_open hopen, if_pos hu]
    rfl
  have hrest : Whole (fun _ => true) .outside r := by
    have hsplit : Whole (fun _ => true) .quoted (u ++ ['"'] ++ r) := by simpa using hwhole
    rw [← hend]
    exact (whole_append.1 hsplit).2
  cases r with
  | nil => exact ⟨u, rfl, hu, hopen⟩
  | cons d r => cases hrest.1 rfl

/-! ## Both scanners -/

/-- In quotes a skip looks neither for delimiters nor for angle brackets. -/
theorem skipFrom_inside (stop : Char → Bool) (angles : Bool) {m : Mode}
    (h : Whole (fun _ => true) m w) :
    skipFrom stop angles m.region (w ++ s) =
      (w ++ (skipFrom stop angles (m.behind w).region s).1,
        (skipFrom stop angles (m.behind w).region s).2) := by
  induction w generalizing m with
  | nil => rfl
  | cons c w ih =>
      have hstep : skipFrom stop angles m.region (c :: (w ++ s)) =
          took c (skipFrom stop angles (m.next c).region (w ++ s)) := by
        cases m with
        | outside => cases h.1 rfl
        | quoted =>
            by_cases hquote : c = '"'
            · simp [skipFrom, Mode.region, Mode.next, hquote]
            · by_cases hc : c = '\\'
              · simp [skipFrom, Mode.region, Mode.next, hc]
              · simp [skipFrom, Mode.region, Mode.next, hquote, hc]
        | hidden => simp [skipFrom, Mode.region, Mode.next]
      rw [List.cons_append, hstep, ih h.2]
      rfl

/-- A quote opens a string even where it is a delimiter. -/
theorem skipUntil_quote (stop : Char → Bool) (angles : Bool) (t : List Char) :
    skipUntil stop angles ('"' :: t) = took '"' (skipFrom stop angles .quotes t) := by
  simp [skipUntil, skipFrom]

/-- A string is skipped up to its first quote that nothing hides, whatever else it holds. -/
theorem skipUntil_closed (stop : Char → Bool) (angles : Bool) (hu : Settled u) (hopen : ¬ Closes u) :
    skipUntil stop angles ('"' :: (u ++ '"' :: r)) =
      ('"' :: (u ++ '"' :: (skipUntil stop angles r).1), (skipUntil stop angles r).2) := by
  have hinside := skipFrom_inside stop angles (s := '"' :: r) (whole_of_open (fun _ => true) hopen)
  rw [behind_of_open hopen, if_pos hu] at hinside
  have hend : skipFrom stop angles Mode.quoted.region ('"' :: r) =
      took '"' (skipUntil stop angles r) := by
    simp [Mode.region, skipFrom, skipUntil]
  rw [hend] at hinside
  calc
    skipUntil stop angles ('"' :: (u ++ '"' :: r))
      = took '"' (skipFrom stop angles .quotes (u ++ '"' :: r)) := skipUntil_quote stop angles _
    _ = took '"' (u ++ '"' :: (skipUntil stop angles r).1, (skipUntil stop angles r).2) :=
      congrArg (took '"') hinside

/-- A string that nothing closes is skipped with all that follows. -/
theorem skipUntil_open (stop : Char → Bool) (angles : Bool) (hopen : ¬ Closes t) :
    skipUntil stop angles ('"' :: t) = ('"' :: t, []) := by
  have hinside := skipFrom_inside stop angles (s := []) (whole_of_open (fun _ => true) hopen)
  have hend : skipFrom stop angles (Mode.quoted.behind t).region [] = ([], []) := by
    cases Mode.quoted.behind t <;> rfl
  rw [hend, List.append_nil] at hinside
  calc
    skipUntil stop angles ('"' :: t) = took '"' (skipFrom stop angles .quotes t) :=
      skipUntil_quote stop angles t
    _ = took '"' (t, []) := congrArg (took '"') hinside

/-- Both scanners end a quoted string at its first quote that nothing hides: what one reads, the
other skips whole, and goes on behind it as from there; without such a quote one fails and the other
skips everything; and the quoted form of a text is read back, whatever follows. -/
theorem quotes_agree (t : List Char) (stop : Char → Bool) (angles : Bool) :
    (∀ v r, quotedString ('"' :: t) = some (v, r) →
      ∃ u, t = u ++ '"' :: r ∧ Settled u ∧ ¬ Closes u ∧
        skipUntil stop angles ('"' :: t) =
          ('"' :: (u ++ '"' :: (skipUntil stop angles r).1), (skipUntil stop angles r).2)) ∧
    (¬ Closes t →
      quotedString ('"' :: t) = none ∧ skipUntil stop angles ('"' :: t) = ('"' :: t, [])) ∧
    (∀ v r, Plain v → quotedString (quoted v ++ r) = some (v, r)) := by
  refine ⟨fun v r hread => ?_, fun hopen => ⟨?_, skipUntil_open stop angles hopen⟩, fun v r hv => ?_⟩
  · rcases quotedRest_eq_some.1 hread with ⟨w, rfl, hw⟩
    rcases hw.exists_first with ⟨u, rfl, hu, hopen⟩
    refine ⟨u, by simp, hu, hopen, ?_⟩
    rw [List.append_assoc]
    exact skipUntil_closed stop angles hu hopen
  · -- a string that is read has been closed
    rw [Option.eq_none_iff_forall_ne_some]
    rintro ⟨v, r⟩ hread
    rcases quotedRest_eq_some.1 hread with ⟨w, rfl, hw⟩
    rcases hw.exists_first with ⟨u, rfl, hu, _⟩
    exact hopen ⟨u, r, by simp, hu⟩
  · have hquoted : quoted v ++ r = '"' :: (escape v ++ ['"'] ++ r) := rfl
    rw [hquoted]
    exact quotedRest_eq_some.2 ⟨_, rfl, quotes_escape hv⟩

/-- Behind an opening quote: a string with a hidden quote, a delimiter and a bracket in it, and an
element with a bracketed delimiter and an open string behind it. -/
def jumbled : List Char := (r#"a\", <b\\";c <d,> "e,"#).toList

/-- The element behind the string. -/
def jumbledRest : List Char := (r#";c <d,> "e,"#).toList

/-- Behind an opening quote: every quote is hidden. -/
def torn : List Char := (r#"a\", b\\\"<"#).toList

/-- A value with characters that are escaped, and with some that would end it elsewhere. -/
def awkward : List Char := "\\\"\t,<é".toList

theorem quotes_agree_jumbled :
    quotedString ('"' :: jumbled) = some ((r#"a", <b\"#).toList, jumbledRest) ∧
    skipUntil (· == ',') true ('"' :: jumbled) = ('"' :: jumbled, []) ∧
    skipUntil (· == ',') false ('"' :: jumbled) =
      ((r#""a\", <b\\";c <d"#).toList, (r#",> "e,"#).toList) ∧
    ¬ Closes torn ∧ quotedString ('"' :: torn) = none ∧
    skipUntil (· == ',') true ('"' :: torn) = ('"' :: torn, []) ∧
    Plain awkward ∧ quotedString (quoted awkward ++ torn) = some (awkward, torn) := by
  have hread : quotedString ('"' :: jumbled) = some ((r#"a", <b\"#).toList, jumbledRest) := by
    decide
  have hopen : ¬ Closes torn := by decide
  have hplain : Plain awkward := by decide
  have hsplit : jumbled = (r#"a\", <b\\"#).toList ++ '"' :: jumbledRest := by decide
  have htorn := (quotes_agree torn (· == ',') true).2.1 hopen
  refine ⟨hread, ?_, ?_, hopen, htorn.1, htorn.2,
    hplain, (quotes_agree torn (· == ',') true).2.2 _ _ hplain⟩
  · -- the delimiter in brackets is none, and the open string takes the rest
    rcases (quotes_agree jumbled (· == ',') true).1 _ _ hread with ⟨u, hu, -, -, hskip⟩
    have hrest : skipUntil (· == ',') true jumbledRest = (jumbledRest, []) := by decide
    rw [hskip, hrest, ← hu]
  · rcases (quotes_agree jumbled (· == ',') false).1 _ _ hread with ⟨u, hu, -, -, hskip⟩
    have hfront : u = (r#"a\", <b\\"#).toList := List.append_cancel_right (hu.symm.trans hsplit)
    have hrest : skipUntil (· == ',') false jumbledRest =
        ((r#";c <d"#).toList, (r#",> "e,"#).toList) := by decide
    rw [hskip, hrest, hfront]
    decide

end Header
end Countersign
