import Countersign.Header.Access
import Countersign.Proofs.ChallengeWriting

/-!
# Access — the union of what all values grant

What header values say about access is defined here without a parser.  A value is trimmed, its own name is
taken off, and the rest is cut at the commas outside quotes; each piece that as a whole is a parameter
grants the words of its value to the audience of its name.  The reader, which works its way through the
text and passes over what is malformed, collects exactly these grants.

* `Text.IsWord` — the words of a text;
* `Access.Lists` — a mode is listed for an audience, which is all that there is to an access;
* `Access.Body`, `Access.Says` — what is left of a value, and the parameters of all values;
* `Access.Reading` — the result of reading in terms of the pieces;
* `Access.Writable`, `Access.listed` — what can be written, and how;
* `Access.union_of_pieces` — the reader collects what the pieces grant, and reads back what is written.
-/

namespace Countersign

/-! ## Words -/

namespace Text

variable {w s run : List Char}

/-- A word of a text: what stands between two blanks, unless nothing does. -/
def IsWord (w s : List Char) : Prop := w ∈ s.splitOnP isBlank ∧ w ≠ []

theorem wordsFrom_eq (run s : List Char) :
    wordsFrom run s = (List.splitOnPPrepend isBlank s run).filter (!·.isEmpty) := by
  -- both collect the open run in reverse, and close it at the same places
  induction s generalizing run with
  | nil => cases run <;> simp [wordsFrom]
  | cons c s ih =>
      have hrest := ih []
      rw [wordsFrom, List.splitOnPPrepend_cons_eq_if, ih (c :: run), hrest]
      cases run <;> split <;> simp

theorem mem_words {m s : String} : m ∈ words s ↔ IsWord m.toList s.toList := by
  have hsplit : wordsFrom [] s.toList = (s.toList.splitOnP isBlank).filter (!·.isEmpty) :=
    wordsFrom_eq [] s.toList
  constructor
  · intro h
    rcases List.mem_map.1 h with ⟨w, hw, rfl⟩
    rw [hsplit, List.mem_filter] at hw
    simpa [IsWord] using hw
  · rintro ⟨hmem, hne⟩
    refine List.mem_map.2 ⟨m.toList, ?_, String.ofList_toList⟩
    rw [hsplit, List.mem_filter]
    simpa [hne] using hmem

/-- The words of joined words. -/
theorem isWord_intercalate {ws : List (List Char)}
    (h : ∀ w ∈ ws, w ≠ [] ∧ ∀ c ∈ w, isBlank c = false) :
    IsWord w ([' '].intercalate ws) ↔ w ∈ ws := by
  induction ws with
  | nil => simp [IsWord]
  | cons w' ws ih =>
      have hw' := h w' (.head _)
      have hrest := ih fun u hu => h u (.tail _ hu)
      cases ws with
      | nil =>
          rw [List.intercalate_singleton, IsWord, List.splitOnP_eq_singleton hw'.2]
          grind
      | cons u ws =>
          have hsplit : [' '].intercalate (w' :: u :: ws) = w' ++ ' ' :: [' '].intercalate (u :: ws) := by
            simp
          rw [IsWord] at hrest ⊢
          rw [hsplit, List.splitOnP_append_cons_of_forall_mem hw'.2 ' ' (by decide)]
          grind

end Text

namespace Access

open Text Header Challenge

variable {a b : Access} {audience mode : String} {n x : List Char}

/-! ## What an access lists -/

/-- A mode is listed for an audience. -/
def Lists (a : Access) (audience mode : String) : Prop :=
  ∃ ms, a.modes audience = some ms ∧ mode ∈ ms

theorem lists_iff :
    a.Lists audience mode ↔ ∃ g ∈ a.grants.entries, audience = g.1 ∧ mode ∈ g.2 := by
  constructor
  · rintro ⟨ms, hms, hmode⟩
    exact ⟨(audience, ms), Table.find?_eq_some.1 hms, rfl, hmode⟩
  · rintro ⟨g, hg, rfl, hmode⟩
    exact ⟨g.2, Table.find?_eq_some.2 hg, hmode⟩

theorem exists_mode {ms : Names} (h : a.modes audience = some ms) : ∃ mode, mode ∈ ms := by
  have hentry : (audience, ms) ∈ a.grants.entries := Table.find?_eq_some.1 h
  exact List.isEmpty_eq_false_iff_exists_mem.1 (a.nonempty _ hentry)

/-- An access is what it lists, because it has no audience without a mode. -/
theorem ext_lists (h : ∀ audience mode, a.Lists audience mode ↔ b.Lists audience mode) : a = b := by
  have hhalf : ∀ {a b : Access}, (∀ audience mode, a.Lists audience mode ↔ b.Lists audience mode) →
      ∀ audience ms, a.modes audience = some ms → b.modes audience = some ms := by
    intro a b h audience ms hms
    rcases exists_mode hms with ⟨mode, hmode⟩
    rcases (h audience mode).1 ⟨ms, hms, hmode⟩ with ⟨ms', hms', _⟩
    have hsame : ms' = ms := by
      refine Names.ext fun m => ?_
      have hm := h audience m
      simpa [Lists, hms, hms', iff_comm] using hm
    rw [hms', hsame]
  have hgrants : a.grants = b.grants := by
    refine Table.ext fun audience => Option.ext fun ms => ?_
    exact ⟨hhalf h audience ms, hhalf (fun n m => (h n m).symm) audience ms⟩
  cases a
  cases b
  cases hgrants
  rfl

@[simp] theorem lists_empty : ¬ empty.Lists audience mode := by
  rintro ⟨ms, hms, _⟩
  cases hms

theorem lists_grant {name modeList : String} :
    (a.grant name modeList).Lists audience mode ↔
      a.Lists audience mode ∨ audience = name ∧ mode ∈ words modeList := by
  unfold grant
  split
  · rename_i hwords
    simp [hwords]
  · rename_i m ms hwords
    rw [hwords]
    by_cases hname : audience = name
    · subst hname
      have hempty : mode ∉ Names.empty := List.not_mem_nil
      cases hheld : a.grants.find? audience <;>
        simp [Lists, modes, Table.find?_alter_self, hheld, Names.mem_insertAll, hempty, or_comm]
    · simp [Lists, modes, Table.find?_alter_ne, hname]

/-- Granting one thing after another grants the union. -/
theorem lists_foldl (ps : List (List Char × List Char)) :
    (ps.foldl (fun a p => a.grant (String.ofList p.1) (String.ofList p.2)) a).Lists audience mode ↔
      a.Lists audience mode ∨ ∃ x, (audience.toList, x) ∈ ps ∧ IsWord mode.toList x := by
  induction ps generalizing a with
  | nil => simp
  | cons p ps ih =>
      have hname : audience = String.ofList p.1 ↔ (audience.toList = p.1) :=
        ⟨fun h => by rw [h, String.toList_ofList], fun h => by rw [← h, String.ofList_toList]⟩
      rw [List.foldl_cons, ih, lists_grant, mem_words, String.toList_ofList, hname, or_assoc]
      grind

/-! ## Parameters of a text -/

variable {w b rest s : List Char}

theorem entries_of_nil (h : skipSeparators s = []) : entries s = [] := by
  unfold entries
  split
  · rfl
  · rename_i hs
    simp [h] at hs

theorem entries_of_cons {c : Char} {t : List Char} (h : skipSeparators s = c :: t) :
    entries s = (element (c :: t)).1.toList ++ entries (element (c :: t)).2 := by
  rw [entries]
  split
  · rename_i hs
    simp [h] at hs
  · rename_i d u hs
    rw [h] at hs
    cases hs
    rfl

/-- An element is taken up to the end of its piece, and is a parameter exactly if its piece is. -/
theorem element_spec (h : Sealed w b rest) (hw : EndsVisibly w) :
    (element (w ++ (b ++ rest))).2 = rest ∧
      ∀ n x, (n, x) ∈ (element (w ++ (b ++ rest))).1.toList ↔ Assigns w n x := by
  unfold element
  cases hs : soleParam (w ++ (b ++ rest)) with
  | none =>
      refine ⟨h.skipUntil_eq, fun n x => ⟨nofun, fun hx => ?_⟩⟩
      have hread := (h.soleParam_eq_some hw).2 ⟨hx, rfl⟩
      rw [hs] at hread
      cases hread
  | some q =>
      rcases q with ⟨⟨n', x'⟩, r⟩
      have hfound := (h.soleParam_eq_some hw).1 hs
      refine ⟨hfound.2, fun n x => ⟨fun hmem => ?_, fun hx => ?_⟩⟩
      · have hsame : (n, x) = (n', x') := by simpa using hmem
        cases hsame
        exact hfound.1
      · have hread := (h.soleParam_eq_some hw).2 ⟨hx, rfl⟩
        rw [hs] at hread
        cases hread
        simp

/-- The parameters that are read from a text are the pieces that are parameters. -/
theorem mem_entries (s : List Char) :
    (n, x) ∈ entries s ↔ ∃ w ∈ pieces s, Assigns w n x := by
  -- both take one piece off the front, and leave the text behind it
  induction hn : s.length using Nat.strongRecOn generalizing s with
  | ind k ih =>
      cases hskip : skipSeparators s with
      | nil =>
          rw [entries_of_nil hskip, pieces_of_nil hskip]
          simp
      | cons c t =>
          rcases exists_first_piece hskip with ⟨w, b, rest, hs, hseal, hw, hpieces, hshort⟩
          rcases element_spec hseal hw with ⟨hrest, hmem⟩
          rw [hpieces, entries_of_cons hskip, hs, hrest, List.mem_append, hmem, ih _ (hn ▸ hshort) _ rfl]
          simp

/-! ## What is left of a value -/

/-- What is left of a value: its text between the blanks at both ends, without its own name and the blanks
behind that. -/
inductive Body (value : String) : List Char → Prop where
  | named {name b s : List Char} (h : trimChars value.toList = name ++ b ++ s)
      (hname : name.map Char.toLower = ownName) (hb : ∀ c ∈ b, isBlank c = true)
      (hs : Halts isBlank s) : Body value s
  | unnamed (h : ∀ name s, trimChars value.toList = name ++ s → name.map Char.toLower ≠ ownName) :
      Body value (trimChars value.toList)

theorem take_of_named {name : List Char} (h : s = name ++ x)
    (hname : name.map Char.toLower = ownName) :
    s.take ownName.length = name ∧ s.drop ownName.length = x := by
  have hlength : ownName.length = name.length := by rw [← hname, List.length_map]
  rw [h, hlength]
  simp

theorem body_iff {value : String} : Body value s ↔ s = dropOwnName (trimChars value.toList) := by
  unfold dropOwnName
  constructor
  · rintro (@⟨name, b, _, h, hname, hb, hs⟩ | h)
    · rcases take_of_named (h.trans (List.append_assoc ..)) hname with ⟨htake, hdrop⟩
      rw [htake, if_pos hname, hdrop]
      exact (dropWhile_eq hb hs).symm
    · rw [if_neg (h _ _ (List.take_append_drop ..).symm)]
  · rintro rfl
    split
    · rename_i hname
      refine .named (b := ((trimChars value.toList).drop ownName.length).takeWhile isBlank) ?_ hname
        (fun c hc => List.mem_takeWhile_imp hc) (halts_dropWhile _)
      rw [List.append_assoc, trimStartChars, List.takeWhile_append_dropWhile, List.take_append_drop]
    · rename_i hname
      refine .unnamed fun name s h hown => hname ?_
      rwa [(take_of_named h hown).1]

/-- One of the values says that a name has a value. -/
def Says (values : List String) (n x : List Char) : Prop :=
  ∃ v ∈ values, ∃ s, Body v s ∧ ∃ w ∈ pieces s, Assigns w n x

theorem says_iff {values : List String} :
    Says values n x ↔ (n, x) ∈ values.flatMap valueEntries := by
  simp [Says, body_iff, valueEntries, mem_entries]

/-- The reader collects what the values say. -/
theorem lists_parseAll {values : List String} :
    (parseAll values).Lists audience mode ↔
      ∃ x, Says values audience.toList x ∧ IsWord mode.toList x := by
  simp [parseAll, lists_foldl, says_iff]

/-! ## Written forms -/

/-- A mode is written without blanks and control characters. -/
def IsMode (m : List Char) : Prop := m ≠ [] ∧ ∀ c ∈ m, isBlank c = false ∧ isControl c = false

/-- The written form of a grant can be read. -/
structure IsGrant (g : String × Names) : Prop where
  audience : IsToken g.1.toList
  modes : ∀ m ∈ g.2, IsMode m.toList

/-- The written form of an access can be read. -/
def Writable (a : Access) : Prop := ∀ g ∈ a.grants.entries, IsGrant g

/-- The header value that holds some grants. -/
def listed (gs : List (String × Names)) : String :=
  String.ofList (separator.intercalate (gs.map displayGrant))

theorem display_eq_listed (a : Access) : a.display = listed a.grants.entries := rfl

/-- The modes of a grant in one text. -/
def modeList (ms : Names) : List Char := [' '].intercalate (ms.toList.map String.toList)

theorem displayGrant_eq (g : String × Names) :
    displayGrant g = displayParameter (g.1, String.ofList (modeList g.2)) := by
  simp [displayGrant, displayParameter, modeList]

section

variable {ms : Names} (h : ∀ m ∈ ms, IsMode m.toList)

include h

theorem isWord_modeList : IsWord mode.toList (modeList ms) ↔ mode ∈ ms := by
  have hwords : ∀ w ∈ ms.toList.map String.toList, w ≠ [] ∧ ∀ c ∈ w, isBlank c = false := by
    intro w hw
    rcases List.mem_map.1 hw with ⟨m, hm, rfl⟩
    have hmode : IsMode m.toList := h m hm
    exact ⟨hmode.1, fun c hc => (hmode.2 c hc).1⟩
  rw [modeList, isWord_intercalate hwords,
    List.mem_map_of_injective fun _ _ heq => String.toList_injective heq]
  rfl

theorem plain_modeList : Plain (modeList ms) := by
  have hwords : ∀ w ∈ ms.toList.map String.toList, Plain w := by
    intro w hw
    rcases List.mem_map.1 hw with ⟨m, hm, rfl⟩
    exact fun c hc => .inr ((h m hm).2 c hc).2
  exact plain_intercalate (by simp [Plain, isControl]) hwords

end

theorem IsGrant.assigns {g : String × Names} (h : IsGrant g) :
    Assigns (displayGrant g) g.1.toList (modeList g.2) := by
  have hplain : Plain (String.ofList (modeList g.2)).toList := by simpa using plain_modeList h.modes
  have hassigns := assigns_displayParameter (p := (g.1, String.ofList (modeList g.2))) h.audience hplain
  rw [displayGrant_eq]
  simpa using hassigns

theorem IsGrant.trimmed {g : String × Names} (h : IsGrant g) : Trimmed (displayGrant g) := by
  rw [displayGrant_eq]
  exact trimmed_displayParameter h.audience

theorem toLower_ne_colon {c : Char} (h : isTokenChar c = true) : c.toLower ≠ ':' := by
  intro hlower
  have hcolon : c = ':' := by
    unfold Char.toLower at hlower
    split at hlower
    · -- a capital letter becomes a small one
      have hval := congrArg Char.val hlower
      simp at hval
      grind
    · exact hlower
  rw [hcolon] at h
  exact absurd h (by decide)

/-- A parameter does not begin with the header's own name, because its sign comes before any colon. -/
theorem not_named {name t : List Char} (hn : IsToken n) (h : n ++ '=' :: t = name ++ s) :
    name.map Char.toLower ≠ ownName := by
  intro hname
  have hcolon : ∃ c ∈ name, c.toLower = ':' := by
    have hmem : ':' ∈ name.map Char.toLower := by
      rw [hname]
      decide
    exact List.mem_map.1 hmem
  rcases hcolon with ⟨c, hc, hlower⟩
  have hsign : '=' ∉ name := by
    intro hmem
    have hmem' : '=' ∈ ownName := hname ▸ List.mem_map.2 ⟨'=', hmem, rfl⟩
    exact absurd hmem' (by decide)
  have hcn : c ∈ n := by
    rcases List.append_eq_append_iff.1 h with ⟨u, rfl, hu⟩ | ⟨u, rfl, _⟩
    · cases u with
      | nil => simpa using hc
      | cons d u =>
          have hd : '=' = d := by simpa using congrArg List.head? hu
          exact absurd (by simp [← hd]) hsign
    · exact List.mem_append_left _ hc
  exact toLower_ne_colon (hn.2 c hcn) hlower

/-- Nothing is taken off a written value. -/
theorem body_listed {gs : List (String × Names)} (h : ∀ g ∈ gs, IsGrant g) :
    Body (listed gs) (separator.intercalate (gs.map displayGrant)) := by
  have htrimmed : ∀ w ∈ gs.map displayGrant, Trimmed w := by
    intro w hw
    rcases List.mem_map.1 hw with ⟨g, hg, rfl⟩
    exact (h g hg).trimmed
  cases gs with
  | nil => exact body_iff.2 rfl
  | cons g gs =>
      have htext : trimChars (listed (g :: gs)).toList =
          separator.intercalate ((g :: gs).map displayGrant) := by
        rw [listed, String.toList_ofList]
        exact (trimmed_intercalate (by simp) htrimmed separator).trimChars_eq
      have hbegin : ∃ t, separator.intercalate ((g :: gs).map displayGrant) =
          g.1.toList ++ '=' :: t := by
        cases gs <;> exact ⟨_, by simp [displayGrant]; rfl⟩
      rcases hbegin with ⟨t, ht⟩
      rw [← htext]
      refine .unnamed fun name s hs => ?_
      rw [htext, ht] at hs
      exact not_named (h g (.head _)).audience hs

/-- What is written says its grants and nothing else. -/
theorem says_listed {groups : List (List (String × Names))}
    (h : ∀ gs ∈ groups, ∀ g ∈ gs, IsGrant g) :
    Says (groups.map listed) n x ↔ ∃ gs ∈ groups, ∃ g ∈ gs, n = g.1.toList ∧ x = modeList g.2 := by
  have hpieces : ∀ gs ∈ groups, pieces (separator.intercalate (gs.map displayGrant)) =
      gs.map displayGrant := by
    intro gs hgs
    refine pieces_intercalate fun w hw => ?_
    rcases List.mem_map.1 hw with ⟨g, hg, rfl⟩
    exact (h gs hgs g hg).assigns.solid
  constructor
  · rintro ⟨v, hv, s, hs, w, hw, hx⟩
    rcases List.mem_map.1 hv with ⟨gs, hgs, rfl⟩
    rw [body_iff.1 hs, ← body_iff.1 (body_listed (h gs hgs)), hpieces gs hgs] at hw
    rcases List.mem_map.1 hw with ⟨g, hg, rfl⟩
    exact ⟨gs, hgs, g, hg, assigns_unique hx (h gs hgs g hg).assigns⟩
  · rintro ⟨gs, hgs, g, hg, rfl, rfl⟩
    have hmem : displayGrant g ∈ pieces (separator.intercalate (gs.map displayGrant)) := by
      rw [hpieces gs hgs]
      exact List.mem_map_of_mem hg
    exact ⟨_, List.mem_map_of_mem hgs, _, body_listed (h gs hgs), _, hmem, (h gs hgs g hg).assigns⟩

/-- An access reads back from any header values that hold its grants, in whatever order they stand. -/
theorem Writable.parseAll_listed (h : a.Writable) {groups : List (List (String × Names))}
    (hgroups : ∀ g, g ∈ a.grants.entries ↔ ∃ gs ∈ groups, g ∈ gs) :
    parseAll (groups.map listed) = a := by
  have hall : ∀ gs ∈ groups, ∀ g ∈ gs, IsGrant g :=
    fun gs hgs g hg => h g ((hgroups g).2 ⟨gs, hgs, hg⟩)
  refine ext_lists fun audience mode => ?_
  rw [lists_parseAll, lists_iff]
  constructor
  · rintro ⟨x, hsays, hword⟩
    rcases (says_listed hall).1 hsays with ⟨gs, hgs, g, hg, hname, rfl⟩
    have hmode : mode ∈ g.2 := (isWord_modeList (hall gs hgs g hg).modes).1 hword
    exact ⟨g, (hgroups g).2 ⟨gs, hgs, hg⟩, String.toList_injective hname, hmode⟩
  · rintro ⟨g, hg, rfl, hmode⟩
    rcases (hgroups g).1 hg with ⟨gs, hgs, hmem⟩
    have hsays : Says (groups.map listed) g.1.toList (modeList g.2) :=
      (says_listed hall).2 ⟨gs, hgs, g, hmem, rfl, rfl⟩
    exact ⟨_, hsays, (isWord_modeList (h g hg).modes).2 hmode⟩

/-! ## The union -/

/-- What is read from header values, in terms of what their pieces say. -/
structure Reading (values : List String) : Prop where
  /-- A mode is listed if one of the values says so, and not otherwise. -/
  union : ∀ audience mode, (parseAll values).Lists audience mode ↔
    ∃ x, Says values audience.toList x ∧ IsWord mode.toList x
  inhabited : ∀ audience ms, (parseAll values).modes audience = some ms → ∃ mode, mode ∈ ms
  joined : ∀ values' audience mode, (parseAll (values ++ values')).Lists audience mode ↔
    (parseAll values).Lists audience mode ∨ (parseAll values').Lists audience mode
  /-- Nothing else counts: neither how often or in which order the values and their parameters stand, nor
  what stands between them. -/
  settled : ∀ values', (∀ n x, Says values' n x ↔ Says values n x) → parseAll values' = parseAll values
  reordered : ∀ values', (∀ v, v ∈ values' ↔ v ∈ values) → parseAll values' = parseAll values

theorem reading (values : List String) : Reading values := by
  have hsettled : ∀ values', (∀ n x, Says values' n x ↔ Says values n x) →
      parseAll values' = parseAll values := by
    intro values' h
    refine ext_lists fun audience mode => ?_
    simp only [lists_parseAll, h]
  refine ⟨fun _ _ => lists_parseAll, fun _ _ => exists_mode, ?_, hsettled, ?_⟩
  · intro values' audience mode
    simp only [lists_parseAll, says_iff, List.flatMap_append, List.mem_append, or_and_right,
      exists_or]
  · intro values' h
    refine hsettled values' fun n x => ?_
    simp only [Says, h]

/-- All values are read as one union of what their pieces say, and a written access reads back. -/
theorem union_of_pieces (values : List String) (a : Access) :
    Reading values ∧ (a.Writable → parseAll [a.display] = a ∧
      ∀ groups : List (List (String × Names)),
        (∀ g, g ∈ a.grants.entries ↔ ∃ gs ∈ groups, g ∈ gs) → parseAll (groups.map listed) = a) := by
  refine ⟨reading values, fun h => ⟨?_, fun groups hgroups => h.parseAll_listed hgroups⟩⟩
  have hone : parseAll ([a.grants.entries].map listed) = a := h.parseAll_listed (by simp)
  rw [display_eq_listed]
  exact hone

instance (m : List Char) : Decidable (IsMode m) :=
  decidable_of_iff ((!m.isEmpty && m.all fun c => !isBlank c && !isControl c) = true)
    (by simp [IsMode])

instance (g : String × Names) : Decidable (IsGrant g) :=
  decidable_of_iff (IsToken g.1.toList ∧ (g.2.toList.all fun m => decide (IsMode m.toList)) = true) <| by
    rw [List.all_eq_true]
    constructor
    · rintro ⟨haudience, hmodes⟩
      exact ⟨haudience, fun m hm => of_decide_eq_true (hmodes m hm)⟩
    · intro h
      exact ⟨h.audience, fun m hm => decide_eq_true (h.modes m hm)⟩

instance (a : Access) : Decidable a.Writable :=
  decidable_of_iff ((a.grants.entries.all fun g => decide (IsGrant g)) = true) (by simp [Writable])

/-- Everybody may read, and the user may change what there is. -/
def shared : Access := (empty.grant "user" "write append").grant "public" "read"

example : shared.display = "public=\"read\", user=\"append write\"" := by decide +kernel

/-- A value with its own name, in which only one piece is a parameter. -/
def untidy : List String := ["WAC-Allow:\tuser read, user=\"write  append\",, public=\"read"]

example : parseAll untidy = empty.grant "user" "write append" := by decide +kernel

theorem union_of_pieces_shared :
    shared.Writable ∧ parseAll [shared.display] = shared ∧
      parseAll (([shared.grants.entries.reverse, [], shared.grants.entries]).map listed) = shared ∧
      (parseAll untidy).Lists "user" "write" := by
  have hwritable : shared.Writable := by decide +kernel
  have hwritten := (union_of_pieces untidy shared).2 hwritable
  have hread := (union_of_pieces untidy shared).1
  refine ⟨hwritable, hwritten.1, hwritten.2 _ (by simp), ?_⟩
  have hassigns : Assigns "user=\"write  append\"".toList "user".toList "write  append".toList :=
    assigns_displayParameter (p := ("user", "write  append")) (by decide) (by decide)
  have hsays : Says untidy "user".toList "write  append".toList :=
    ⟨_, .head _, _, body_iff.2 rfl, _, by decide +kernel, hassigns⟩
  exact (hread.union "user" "write").2 ⟨_, hsays, by decide, by decide⟩

end Access
end Countersign
