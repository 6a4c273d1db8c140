import Countersign.Proofs.AccessUnion
import Countersign.Proofs.LinkWriting
import Mathlib.Data.List.ReduceOption

/-!
# Header progress — every pass of a loop shortens the text

Five loops read header values: one over the elements of each kind of list, one over the items behind
the scheme of a challenge, and one over the parameters behind the target of a link.  When an item
cannot be read, they go back to its start and skip it, so that a skip of nothing would repeat for
ever.  Here one pass of a loop is a function from the remaining text to what the pass leaves of it:

* `Cut`, `Behind` — a text cut in two at an offset in octets, and a rest that is shorter;
* `token_suffix`, …, `element_suffix` — what the scanners leave is the end of their text;
* `Pass`, `Runs`, `Ended` — one pass, the passes until the loop is left, and what is known of them;
* `listPass`, `Challenge.itemPass`, `Link.parameterPass` — the passes of the five loops;
* `Runs.gathered`, `Unrolls.collected_of_runs` — the loops return what their passes read;
* `every_pass_advances` — every loop is left, and never cuts its text within a character.

The pass that leaves a loop reads nothing and is not counted: over the empty text a loop makes no
other pass.
-/

namespace Countersign
namespace Header

open Text

variable {a b r s t v w ds : List Char}

/-! ## Cuts -/

/-- The number of octets of a text. -/
def octets (s : List Char) : Nat := (String.ofList s).utf8ByteSize

theorem octets_append : octets (a ++ b) = octets a + octets b := by
  simp [octets, String.ofList_append]

/-- Each character of ASCII has one octet. -/
theorem octets_eq_length (h : ∀ c ∈ s, c.val ≤ 127) : octets s = s.length := by
  induction s with
  | nil => rfl
  | cons c s ih =>
      have hc : octets [c] = 1 := by
        simpa [octets] using Char.utf8Size_eq_one_iff.2 (h c (.head _))
      have hs : octets s = s.length := ih fun d hd => h d (.tail _ hd)
      calc
        octets (c :: s) = octets [c] + octets s := octets_append (a := [c])
        _ = s.length + 1 := by rw [hc, hs, Nat.add_comm]

/-- A text is cut in two where its second part has all the octets that are left. -/
structure Cut (s a b : List Char) : Prop where
  text : s = a ++ b
  offset : octets s - octets b = octets a
  /-- No character lies across the cut. -/
  boundary : String.Pos.Raw.IsValid (String.ofList s) ⟨octets s - octets b⟩

theorem cut_append (a b : List Char) : Cut (a ++ b) a b := by
  have hoffset : octets (a ++ b) - octets b = octets a := by
    rw [octets_append, Nat.add_sub_cancel]
  refine ⟨rfl, hoffset, ?_⟩
  rw [hoffset, String.ofList_append]
  exact String.Pos.Raw.isValid_iff_exists_append.2 ⟨_, _, rfl, rfl⟩

theorem exists_cut (h : b <:+ s) : ∃ a, Cut s a b := by
  rcases h with ⟨a, rfl⟩
  exact ⟨a, cut_append a b⟩

/-- A strictly shorter end of the text, behind a cut. -/
structure Behind (s r : List Char) : Prop where
  shorter : r.length < s.length
  cut : ∃ a, Cut s a r

theorem Behind.suffix (h : Behind s r) : r <:+ s := by
  rcases h.cut with ⟨a, hcut⟩
  exact ⟨a, hcut.text.symm⟩

theorem behind_of_suffix (h : r <:+ s) (hlt : r.length < s.length) : Behind s r :=
  ⟨hlt, exists_cut h⟩

theorem Behind.trans (h : Behind s t) (h' : Behind t r) : Behind s r :=
  behind_of_suffix (h'.suffix.trans h.suffix) (Nat.lt_trans h'.shorter h.shorter)

theorem behind_of_behind_suffix (h : Behind t r) (hs : t <:+ s) : Behind s r :=
  behind_of_suffix (h.suffix.trans hs) (Nat.lt_of_lt_of_le h.shorter hs.length_le)

/-! ## What the scanners leave -/

theorem skipBlanks_suffix (s : List Char) : skipBlanks s <:+ s := List.dropWhile_suffix _

theorem token_suffix (h : token s = some (w, r)) : r <:+ s :=
  ⟨w, (token_eq_some.1 h).1.symm⟩

theorem paddedToken_text (h : paddedToken s = some (v, r)) : s = v ++ r := by
  rcases Option.map_eq_some_iff.1 h with ⟨⟨w, t⟩, ht, he⟩
  simp only [Prod.mk.injEq] at he
  rcases he with ⟨rfl, rfl⟩
  rw [List.append_assoc, List.takeWhile_append_dropWhile]
  exact (token_eq_some.1 ht).1

theorem paramValue_suffix (h : paramValue s = some (v, r)) : r <:+ s := by
  unfold paramValue at h
  split at h
  · -- of a quoted string the value is not a part of the text, but the rest is
    rcases quotedRest_eq_some.1 h with ⟨w, rfl, _⟩
    exact ⟨'"' :: w, rfl⟩
  · exact ⟨v, (paddedToken_text h).symm⟩

theorem param_suffix {p : List Char × List Char} (h : param ds s = some (p, r)) : r <:+ s := by
  unfold param at h
  split at h
  · cases h
  · rename_i name t ht
    split at h
    · rename_i u hu
      split at h
      · cases h
      · rename_i value q hq
        split at h
        · simp only [Option.some.injEq, Prod.mk.injEq] at h
          rw [← h.2]
          have hsign : u <:+ t := (List.suffix_cons '=' u).trans (hu ▸ skipBlanks_suffix t)
          exact (((paramValue_suffix hq).trans (skipBlanks_suffix u)).trans hsign).trans
            (token_suffix ht)
        · cases h
    · cases h

theorem soleParam_suffix {p : List Char × List Char} (h : soleParam s = some (p, r)) : r <:+ s := by
  unfold soleParam at h
  split at h
  · cases h
  · rename_i q t ht
    have hblanks : skipBlanks t <:+ s := (skipBlanks_suffix t).trans (param_suffix ht)
    split at h
    · simp only [Option.some.injEq, Prod.mk.injEq] at h
      rw [← h.2]
      exact List.nil_suffix
    · rename_i c u hu
      split at h
      · simp only [Option.some.injEq, Prod.mk.injEq] at h
        rw [← h.2, ← hu]
        exact hblanks
      · cases h

theorem token68_suffix (h : token68 s = some r) : r <:+ s := by
  rcases token68_eq_some.1 h with ⟨w, rfl, _⟩
  exact List.suffix_append w r

theorem skipFrom_text (stop : Char → Bool) (angles : Bool) (w : Region) (s : List Char) :
    (skipFrom stop angles w s).1 ++ (skipFrom stop angles w s).2 = s := by
  fun_induction skipFrom stop angles w s <;>
    simp_all only [took_fst, took_snd, List.cons_append, List.nil_append]

theorem skipUntil_suffix (stop : Char → Bool) (angles : Bool) (s : List Char) :
    (skipUntil stop angles s).2 <:+ s :=
  ⟨_, skipFrom_text stop angles .outside s⟩

/-! ## Passes -/

/-- What one pass of a loop makes of the remaining text: it leaves the loop, or it reads something
and goes on with a rest. -/
inductive Pass (α β : Type) where
  | leave (b : β)
  | again (a : α) (rest : List Char)
deriving DecidableEq, Repr

variable {α β : Type} {pass : List Char → Pass α β} {ps : List (α × List Char)} {z : β}

/-- A pass over a text that goes on leaves a rest behind it. -/
def Pass.Advances (s : List Char) : Pass α β → Prop
  | .leave _ => True
  | .again _ r => Behind s r

theorem behind_of_again {y : α} (hpass : (pass s).Advances s) (h : pass s = .again y r) :
    Behind s r := by
  rw [h] at hpass
  exact hpass

/-- The passes from a text until one leaves the loop, each with what it read and the rest. -/
inductive Runs (pass : List Char → Pass α β) : List Char → List (α × List Char) → β → Prop where
  | leave {s : List Char} {z : β} (h : pass s = .leave z) : Runs pass s [] z
  | again {s r : List Char} {y : α} {ps : List (α × List Char)} {z : β}
      (h : pass s = .again y r) (hrest : Runs pass r ps z) : Runs pass s ((y, r) :: ps) z

/-- A loop over a text is left, after the given passes and with the given outcome. -/
structure Ended (pass : List Char → Pass α β) (s : List Char) (ps : List (α × List Char)) (z : β) :
    Prop where
  runs : Runs pass s ps z
  /-- Every rest lies behind the text and behind all rests before it. -/
  descends : (s :: ps.map Prod.snd).Pairwise Behind
  /-- The text has a character for each pass before the one that leaves. -/
  bounded : ps.length ≤ s.length

theorem Runs.ended (hpass : ∀ s, (pass s).Advances s) (h : Runs pass s ps z) : Ended pass s ps z := by
  induction h with
  | leave h => exact ⟨.leave h, List.pairwise_singleton _ _, Nat.zero_le _⟩
  | @again s r y ps z h _ ih =>
      have hrest : Behind s r := behind_of_again (hpass s) h
      refine ⟨.again h ih.runs, ?_, Nat.le_trans (Nat.succ_le_succ ih.bounded) hrest.shorter⟩
      rw [List.map_cons, List.pairwise_cons]
      refine ⟨fun q hq => ?_, ih.descends⟩
      -- the later rests lie behind the first one, which lies behind the text
      rcases List.mem_cons.1 hq with rfl | hq
      · exact hrest
      · exact hrest.trans ((List.pairwise_cons.1 ih.descends).1 q hq)

/-- A loop whose passes advance is left. -/
theorem exists_runs (hpass : ∀ s, (pass s).Advances s) (s : List Char) :
    ∃ ps z, Runs pass s ps z := by
  -- by induction on the characters that are left, of which every pass takes some
  induction hn : s.length using Nat.strongRecOn generalizing s with
  | ind n ih =>
      cases hs : pass s with
      | leave z => exact ⟨[], z, .leave hs⟩
      | again y r =>
          have hshorter : r.length < n := hn ▸ (behind_of_again (hpass s) hs).shorter
          rcases ih r.length hshorter r rfl with ⟨ps, z, hruns⟩
          exact ⟨(y, r) :: ps, z, .again hs hruns⟩

/-- What each pass adds to the answer of a loop, all passes together give. -/
theorem Runs.answer (answer : List Char → List α → β → Prop)
    (hleave : ∀ s z, pass s = .leave z → answer s [] z)
    (hagain : ∀ s y r ys z, pass s = .again y r → answer r ys z → answer s (y :: ys) z)
    (h : Runs pass s ps z) : answer s (ps.map Prod.fst) z := by
  induction h with
  | leave h => exact hleave _ _ h
  | again h _ ih => exact hagain _ _ _ _ _ h ih

/-- A loop makes progress on a text, and answers with what its passes read. -/
structure Progress (pass : List Char → Pass α β) (s : List Char) (answer : List α → β → Prop) :
    Prop where
  advances : (pass s).Advances s
  ends : ∃ ps z, Ended pass s ps z ∧ answer (ps.map Prod.fst) z

theorem progress_of_advances {answer : List α → β → Prop} (hpass : ∀ s, (pass s).Advances s)
    (hanswer : ∀ ps z, Runs pass s ps z → answer (ps.map Prod.fst) z) : Progress pass s answer := by
  rcases exists_runs hpass s with ⟨ps, z, hruns⟩
  exact ⟨hpass s, ps, z, hruns.ended hpass, hanswer ps z hruns⟩

/-! ### Lists of elements -/

/-- One pass over the elements of a list: separators are skipped, and then an element, well formed
or not. -/
def listPass (element : List Char → α × List Char) (s : List Char) : Pass α Unit :=
  match skipSeparators s with
  | [] => .leave ()
  | c :: r => .again (element (c :: r)).1 (element (c :: r)).2

theorem listPass_leave {element : List Char → α × List Char} {z : Unit}
    (h : listPass element s = .leave z) : skipSeparators s = [] := by
  unfold listPass at h
  split at h
  · assumption
  · cases h

theorem listPass_again {element : List Char → α × List Char} {y : α}
    (h : listPass element s = .again y r) :
    ∃ c t, skipSeparators s = c :: t ∧ element (c :: t) = (y, r) := by
  unfold listPass at h
  split at h
  · cases h
  · rename_i c t hs
    cases h
    exact ⟨c, t, hs, rfl⟩

theorem listPass_advances {element : List Char → α × List Char}
    (hsuffix : ∀ s, (element s).2 <:+ s)
    (hlength : ∀ c t, isSeparator c = false → (element (c :: t)).2.length < (c :: t).length)
    (s : List Char) : (listPass element s).Advances s := by
  unfold listPass
  split
  · trivial
  · rename_i c t hs
    have hstart : c :: t <:+ s := hs ▸ List.dropWhile_suffix isSeparator
    have hlt := hlength c t (skipSeparators_cons hs).1
    exact behind_of_behind_suffix (behind_of_suffix (hsuffix _) hlt) hstart

/-- A list of optional elements is read pass by pass. -/
theorem Runs.gathered {element : List Char → Option α × List Char} {loop : List Char → List α}
    {z : Unit} {ps : List (Option α × List Char)}
    (hnil : ∀ s, skipSeparators s = [] → loop s = [])
    (hcons : ∀ s c t, skipSeparators s = c :: t →
      loop s = (element (c :: t)).1.toList ++ loop (element (c :: t)).2)
    (h : Runs (listPass element) s ps z) : loop s = (ps.map Prod.fst).reduceOption := by
  refine h.answer (fun s ys _ => loop s = ys.reduceOption)
    (fun s z hs => hnil s (listPass_leave hs)) fun s y r ys z hs hrest => ?_
  rcases listPass_again hs with ⟨c, t, hskip, helement⟩
  rw [hcons s c t hskip, helement, hrest]
  cases y <;> rfl

/-! ### Items -/

/-- What a loop over items returns: the items that were read, and where it was left. -/
def collected (ys : List (Option α)) (z : Option (List Char)) : Option (List α × List Char) :=
  z.map fun r => (ys.reduceOption, r)

/-- A pass over items leaves the end of its text, and a strictly shorter one where it goes on. -/
def Pass.Within (s : List Char) : Pass (Option α) (Option (List Char)) → Prop
  | .leave z => ∀ r, z = some r → r <:+ s
  | .again _ r => Behind s r

theorem Pass.Within.advances {p : Pass (Option α) (Option (List Char))} (h : p.Within s) :
    p.Advances s := by
  cases p with
  | leave => trivial
  | again => exact h

theorem Pass.Within.of_suffix {p : Pass (Option α) (Option (List Char))} (h : p.Within t)
    (hs : t <:+ s) : p.Within s := by
  cases p with
  | leave z => exact fun r hz => (h r hz).trans hs
  | again y r => exact behind_of_behind_suffix h hs

theorem Pass.within_complete (h : r <:+ s) :
    (Pass.leave (some r) : Pass (Option α) (Option (List Char))).Within s := by
  intro x hx
  cases hx
  exact h

theorem Pass.within_failed : (Pass.leave none : Pass (Option α) (Option (List Char))).Within s := by
  intro x hx
  cases hx

/-- A loop over items, unrolled once. -/
def Unrolls (loop : List Char → Option (List α × List Char))
    (pass : List Char → Pass (Option α) (Option (List Char))) : Prop :=
  ∀ s, loop s = match pass s with
    | .leave z => collected [] z
    | .again y r => (loop r).map fun q => (y.toList ++ q.1, q.2)

section Items

variable {loop : List Char → Option (List α × List Char)} {ys : List α}
  {pass : List Char → Pass (Option α) (Option (List Char))} {ps : List (Option α × List Char)}
  {z : Option (List Char)}

theorem Unrolls.collected_of_runs (hloop : Unrolls loop pass) (h : Runs pass s ps z) :
    loop s = collected (ps.map Prod.fst) z := by
  refine h.answer (fun s ys z => loop s = collected ys z) (fun s z hs => ?_)
    fun s y r ys z hs hrest => ?_
  · rw [hloop s, hs]
  · rw [hloop s, hs]
    simp only [hrest]
    cases y <;> cases z <;> rfl

/-- A loop over items leaves the end of its text. -/
theorem Unrolls.suffix (hloop : Unrolls loop pass) (hpass : ∀ s, (pass s).Within s)
    (h : loop s = some (ys, r)) : r <:+ s := by
  rcases exists_runs (fun s => (hpass s).advances) s with ⟨ps, z, hruns⟩
  -- the last pass says where the loop was left, and each pass before it left the end of its text
  have hz : z = some r := by
    rw [hloop.collected_of_runs hruns] at h
    rcases Option.map_eq_some_iff.1 h with ⟨q, hq, he⟩
    cases he
    exact hq
  refine hruns.answer (fun s _ z => z = some r → r <:+ s) (fun s z hs hz => ?_)
    (fun s y t ys z hs hrest hz => ?_) hz
  · have hwithin := hpass s
    rw [hs] at hwithin
    exact hwithin r hz
  · exact (hrest hz).trans (behind_of_again (hpass s).advances hs).suffix

end Items

end Header

open Text Header

variable {r s t : List Char} {c : Char}

namespace Challenge

/-- One pass over the items behind a scheme: a parameter, a token68 or other text, each with blanks
in front of it. -/
def itemPass (s : List Char) : Pass (Option (List Char × List Char)) (Option (List Char)) :=
  match skipBlanks s with
  | [] => .leave (some [])
  | c :: r =>
    if c = ',' then .leave (some (c :: r))
    else if s.length ≤ (c :: r).length then .leave none
    else
      match param [','] (c :: r) with
      | some (p, rest) => .again (some p) rest
      | none =>
        match token68 (c :: r) with
        | some rest => .again none rest
        | none =>
          if isTokenChar c = true then .again none (skipUntil isSeparator false (c :: r)).2
          else .leave none

theorem itemPass_within (s : List Char) : (itemPass s).Within s := by
  unfold itemPass
  split
  · exact Pass.within_complete List.nil_suffix
  · rename_i c r hs
    refine Pass.Within.of_suffix (t := c :: r) ?_ (hs ▸ skipBlanks_suffix s)
    split
    · exact Pass.within_complete (List.suffix_refl _)
    · split
      · exact Pass.within_failed
      · split
        · rename_i hp
          exact behind_of_suffix (param_suffix hp) (param_length hp)
        · split
          · rename_i ht
            exact behind_of_suffix (token68_suffix ht) (token68_length ht)
          · split
            · -- a token character is no separator, so the skip does not stop at it
              rename_i hc
              exact behind_of_suffix (skipUntil_suffix _ _ _)
                (skipUntil_length (isSeparator_eq_false hc))
            · exact Pass.within_failed

/-- A parameter with two signs is skipped, here with the open string behind them. -/
example : itemPass " realm==\"é, x".toList = .again none [] := by decide

/-- The items are what the passes over them read. -/
theorem unrolls_items : Unrolls items itemPass := by
  intro s
  rw [items]
  unfold itemPass
  split <;> rename_i hs <;> simp only [hs]
  · rfl
  · split
    · rfl
    · split
      · rfl
      · split <;> rename_i hp <;> simp only [hp]
        · rfl
        · split <;> rename_i ht <;> simp only [ht]
          · simp
          · split
            · simp
            · rfl

theorem challengeElement_suffix {q : List Char × List (List Char × List Char)}
    (h : challengeElement s = some (q, r)) : r <:+ s := by
  unfold challengeElement at h
  split at h
  · cases h
  · rename_i scheme t ht
    rcases Option.map_eq_some_iff.1 h with ⟨⟨ps, r'⟩, hitems, he⟩
    cases he
    exact (unrolls_items.suffix itemPass_within hitems).trans (token_suffix ht)

theorem element_suffix (s : List Char) : (element s).2 <:+ s := by
  unfold element
  split
  · rename_i h
    exact soleParam_suffix h
  · split
    · rename_i h
      exact challengeElement_suffix h
    · exact skipUntil_suffix _ _ _

theorem elements_of_runs {ps : List (Element × List Char)} {z : Unit}
    (h : Runs (listPass element) s ps z) : elements s = ps.map Prod.fst := by
  refine h.answer (fun s ys _ => elements s = ys)
    (fun s z hs => elements_of_nil (listPass_leave hs)) fun s y r ys z hs hrest => ?_
  rcases listPass_again hs with ⟨c, t, hskip, helement⟩
  rw [elements_of_cons hskip, helement, hrest]

end Challenge

namespace Link

/-- One pass over the parameters behind a target: a semicolon with a parameter, well formed or not,
or with nothing behind it. -/
def parameterPass (s : List Char) : Pass (Option (List Char × List Char)) (Option (List Char)) :=
  match skipBlanks s with
  | [] => .leave (some [])
  | c :: r =>
    if c = ',' then .leave (some (c :: r))
    else if c = ';' then
      match skipBlanks r with
      | [] => .again none []
      | d :: t =>
        if endsParameter d then .again none (d :: t)
        else
          match param [';', ','] (d :: t) with
          | some (p, rest) => .again (some p) rest
          | none => .again none (skipUntil endsParameter false (d :: t)).2
    else .leave none

theorem parameterPass_within (s : List Char) : (parameterPass s).Within s := by
  unfold parameterPass
  split
  · exact Pass.within_complete List.nil_suffix
  · rename_i c r hs
    refine Pass.Within.of_suffix (t := c :: r) ?_ (hs ▸ skipBlanks_suffix s)
    split
    · exact Pass.within_complete (List.suffix_refl _)
    · split
      · -- whatever the pass leaves stands behind the semicolon
        have hbehind : ∀ {x : List Char}, x <:+ skipBlanks r → Behind (c :: r) x := by
          intro x hx
          have hr : x <:+ r := hx.trans (skipBlanks_suffix r)
          exact behind_of_suffix (hr.trans (List.suffix_cons c r)) (Nat.lt_succ_of_le hr.length_le)
        split
        · exact hbehind List.nil_suffix
        · rename_i d t hr
          rw [hr] at hbehind
          split
          · exact hbehind (List.suffix_refl _)
          · split
            · rename_i hp
              exact hbehind (param_suffix hp)
            · exact hbehind (skipUntil_suffix _ _ _)
      · exact Pass.within_failed

/-- The parameters are what the passes over them read. -/
theorem unrolls_parametersFrom : Unrolls parametersFrom parameterPass := by
  intro s
  rw [parametersFrom]
  unfold parameterPass
  split <;> rename_i hs <;> simp only [hs]
  · rfl
  · split
    · rfl
    · split
      · split <;> rename_i hr <;> simp only [hr]
        · -- the next pass finds the end of the text
          rw [parametersFrom_nil]
          rfl
        · split
          · simp
          · split <;> rename_i hp <;> simp only [hp]
            · rfl
            · simp
      · rfl

theorem linkElement_suffix {q : List Char × List (List Char × List Char)}
    (h : linkElement s = some (q, r)) : r <:+ s := by
  unfold linkElement at h
  split at h
  · rename_i t
    split at h
    · rename_i rest hrest
      simp only at h
      split at h
      · rcases Option.map_eq_some_iff.1 h with ⟨⟨ps, r'⟩, hps, he⟩
        cases he
        have hclosed : rest <:+ t :=
          (List.suffix_cons '>' rest).trans (hrest ▸ List.dropWhile_suffix isReferenceChar)
        exact ((unrolls_parametersFrom.suffix parameterPass_within hps).trans hclosed).trans
          (List.suffix_cons '<' t)
      · cases h
    · cases h
  · cases h

theorem element_suffix (s : List Char) : (element s).2 <:+ s := by
  unfold element
  split
  · rename_i h
    exact linkElement_suffix h
  · exact skipUntil_suffix _ _ _

end Link

namespace Access

theorem element_suffix (s : List Char) : (element s).2 <:+ s := by
  unfold element
  split
  · rename_i h
    exact soleParam_suffix h
  · exact skipUntil_suffix _ _ _

/-- An element that begins with no token is skipped up to the comma behind it. -/
example : listPass element ", é=\"x, y\", z".toList = .again none ", z".toList := by decide

theorem val_le_of_toLower (h : c.toLower.val ≤ 127) : c.val ≤ 127 := by
  unfold Char.toLower at h
  split at h
  · rename_i hcapital
    exact UInt32.le_trans hcapital.2 (by decide)
  · exact h

/-- A value that begins with the header's own name is cut behind as many octets as the name has. -/
theorem cut_ownName (h : (s.take ownName.length).map Char.toLower = ownName) :
    Cut s (s.take ownName.length) (s.drop ownName.length) ∧
      octets (s.take ownName.length) = octets ownName := by
  have hname : ∀ d ∈ ownName, d.val ≤ 127 := by
    have hall : ownName.all (·.val ≤ 127) = true := by decide
    simpa using hall
  have hfront : ∀ d ∈ s.take ownName.length, d.val ≤ 127 := by
    -- no character beyond ASCII becomes a letter of the name in small letters
    intro d hd
    exact val_le_of_toLower (hname _ (h ▸ List.mem_map_of_mem hd))
  have hlength : (s.take ownName.length).length = ownName.length := by
    simpa using congrArg List.length h
  constructor
  · have hcut := cut_append (s.take ownName.length) (s.drop ownName.length)
    rwa [List.take_append_drop] at hcut
  · rw [octets_eq_length hfront, octets_eq_length hname, hlength]

end Access

namespace Header

/-- The places where a scanner or a check cuts the text in two. -/
structure Sliced (s : List Char) : Prop where
  token68 : ∀ r, token68 s = some r → ∃ a, Cut s a r
  bareValue : ∀ v r, paddedToken s = some (v, r) → Cut s v r
  skipped : ∀ stop angles, Cut s (skipUntil stop angles s).1 (skipUntil stop angles s).2
  /-- The part of a target in which a scheme may stand. -/
  head : ∃ b, Cut s (s.takeWhile fun c => !Link.endsHead c) b
  scheme : ∃ b, Cut s ((s.takeWhile fun c => !Link.endsHead c).takeWhile (· != ':')) b
  ownName : (s.take Access.ownName.length).map Char.toLower = Access.ownName →
    Cut s (s.take Access.ownName.length) (s.drop Access.ownName.length) ∧
      octets (s.take Access.ownName.length) = octets Access.ownName

theorem exists_cut_of_prefix {a s : List Char} (h : a <+: s) : ∃ b, Cut s a b := by
  rcases h with ⟨b, rfl⟩
  exact ⟨b, cut_append a b⟩

theorem sliced (s : List Char) : Sliced s where
  token68 _ h := exists_cut (token68_suffix h)
  bareValue v r h := by
    rw [paddedToken_text h]
    exact cut_append v r
  skipped stop angles := by
    have hcut := cut_append (skipUntil stop angles s).1 (skipUntil stop angles s).2
    rwa [skipUntil, skipFrom_text] at hcut
  head := exists_cut_of_prefix (List.takeWhile_prefix _)
  scheme := exists_cut_of_prefix ((List.takeWhile_prefix _).trans (List.takeWhile_prefix _))
  ownName := Access.cut_ownName

/-- On every text each of the five loops makes progress: a pass that does not leave the loop, be the
element read or skipped, leaves a strictly shorter end of the text, and after at most as many such
passes as the text has characters the loop is left; no cut of the text runs through a character. -/
theorem every_pass_advances (s : List Char) :
    Progress (listPass Challenge.element) s (fun es _ => Challenge.elements s = es) ∧
    Progress (listPass Link.element) s (fun ls _ => Link.parseChars s = ls.reduceOption) ∧
    Progress (listPass Access.element) s (fun gs _ => Access.entries s = gs.reduceOption) ∧
    Progress Challenge.itemPass s (fun ps z => Challenge.items s = collected ps z) ∧
    Progress Link.parameterPass s (fun ps z => Link.parametersFrom s = collected ps z) ∧
    Sliced s := by
  have hchallenges : ∀ s, (listPass Challenge.element s).Advances s :=
    listPass_advances Challenge.element_suffix fun _ _ => Challenge.element_length
  have hlinks : ∀ s, (listPass Link.element s).Advances s :=
    listPass_advances Link.element_suffix fun _ _ => Link.element_length
  have hgrants : ∀ s, (listPass Access.element s).Advances s :=
    listPass_advances Access.element_suffix fun _ _ => Access.element_length
  refine ⟨progress_of_advances hchallenges fun _ _ h => Challenge.elements_of_runs h,
    progress_of_advances hlinks fun _ _ h => ?_, progress_of_advances hgrants fun _ _ h => ?_,
    progress_of_advances (fun s => (Challenge.itemPass_within s).advances) fun _ _ h =>
      Challenge.unrolls_items.collected_of_runs h,
    progress_of_advances (fun s => (Link.parameterPass_within s).advances) fun _ _ h =>
      Link.unrolls_parametersFrom.collected_of_runs h,
    sliced s⟩
  · exact h.gathered (fun _ => Link.parseChars_nil) fun _ _ _ => Link.parseChars_cons
  · exact h.gathered (fun _ => Access.entries_of_nil) fun _ _ _ => Access.entries_of_cons

end Header
end Countersign
