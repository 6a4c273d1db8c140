import Countersign.Url.Percent

/-!
# Form bodies — what a posted form says

A form is posted as one text, in which ampersands stand between the fields, and an equals sign between the
name and the value of a field.  This file reads such a text as a server does, and shows that what is read
is what was written, whatever the names and values are:

* `Form.octets` — what a name or a value spells;
* `Form.fields`, `Form.values` — the fields of a form, and the values under a name;
* `Form.part` — what a field is written as;
* `Form.fields_form` — reading is the inverse of `Percent.form`.
-/

namespace Countersign
namespace Form

/-! ## Reading -/

/-- A plus sign stands for a blank. -/
def unplus (c : Char) : Char := if c = '+' then ' ' else c

/-- The octets that a name or a value spells. -/
def octets (part : List Char) : Bytes := Percent.decode (part.map unplus)

/-- A field is a name up to the first equals sign, and a value behind it. -/
def field (part : List Char) : Bytes × Bytes :=
  (octets (part.takeWhile (· != '=')), octets ((part.dropWhile (· != '=')).drop 1))

/-- The fields of a form, in order. -/
def fields (text : String) : List (Bytes × Bytes) :=
  ((text.toList.splitOn '&').filter (!·.isEmpty)).map field

/-- The values under a name, in order. -/
def values (text name : String) : List Bytes :=
  ((fields text).filter fun f => f.1 = Utf8.encode name).map Prod.snd

/-! ## Escapes -/

open Percent

theorem hexValue?_digit : ∀ n < 16, Text.hexValue? (digit n) = some n := by decide

theorem digit_plain : ∀ n < 16, digit n ≠ '&' ∧ digit n ≠ '=' ∧ digit n ≠ '+' := by decide

theorem escapeByte_plain (b : UInt8) : ∀ c ∈ escapeByte b, c ≠ '&' ∧ c ≠ '=' ∧ c ≠ '+' := by
  have hb := b.toNat_lt
  intro c hc
  simp only [escapeByte, List.mem_cons, List.not_mem_nil, or_false] at hc
  rcases hc with rfl | rfl | rfl
  · decide
  · exact digit_plain _ (by omega)
  · exact digit_plain _ (by omega)

/-- An escape spells its octet. -/
theorem decode_escapeByte (b : UInt8) (r : List Char) : decode (escapeByte b ++ r) = b :: decode r := by
  have hb := b.toNat_lt
  have hoctet : UInt8.ofNat (b.toNat / 16 * 16 + b.toNat % 16) = b := by
    rw [Nat.div_add_mod', UInt8.ofNat_toNat]
  simp [escapeByte, decode, hexValue?_digit (b.toNat / 16) (by omega),
    hexValue?_digit (b.toNat % 16) (by omega), hoctet]

theorem decode_escapes (bs : Bytes) (r : List Char) :
    decode (bs.flatMap escapeByte ++ r) = bs ++ decode r := by
  induction bs with
  | nil => rfl
  | cons b bs ih => rw [List.flatMap_cons, List.append_assoc, decode_escapeByte, ih, List.cons_append]

/-- Any other character spells itself. -/
theorem decode_cons {c : Char} (hc : c ≠ '%') (r : List Char) :
    decode (c :: r) = Utf8.encodeChar c ++ decode r := by
  simp [decode, hc]

/-! ## Parts of a form -/

/-- What one character of a name or a value is written as. -/
def written (c : Char) : List Char :=
  if isFormChar c then [c] else if c == ' ' then ['+'] else (Utf8.encodeChar c).flatMap escapeByte

theorem ne_of_isFormChar {c d : Char} (hc : isFormChar c = true) (hd : isFormChar d = false) :
    c ≠ d := by
  rintro rfl
  rw [hc] at hd
  cases hd

theorem formText_eq (s : String) : formText s = s.toList.flatMap written := rfl

/-- No separator is written as itself. -/
theorem written_plain (c : Char) : ∀ d ∈ written c, d ≠ '&' ∧ d ≠ '=' := by
  unfold written
  split
  · next hform =>
      intro d hd
      rw [List.mem_singleton.1 hd]
      exact ⟨ne_of_isFormChar hform (by decide), ne_of_isFormChar hform (by decide)⟩
  · split
    · intro d hd
      rw [List.mem_singleton.1 hd]
      decide
    · intro d hd
      rcases List.mem_flatMap.1 hd with ⟨b, _, hb⟩
      exact ⟨(escapeByte_plain b d hb).1, (escapeByte_plain b d hb).2.1⟩

theorem formText_plain (s : String) : ∀ d ∈ formText s, d ≠ '&' ∧ d ≠ '=' := by
  intro d hd
  rcases List.mem_flatMap.1 hd with ⟨c, _, hc⟩
  exact written_plain c d hc

/-- A character is read as it was written. -/
theorem decode_written (c : Char) (r : List Char) :
    decode ((written c).map unplus ++ r) = Utf8.encodeChar c ++ decode r := by
  unfold written
  split
  · next hform =>
      -- what is written as itself is also read as itself
      have hplus : c ≠ '+' := ne_of_isFormChar hform (by decide)
      have hpercent : c ≠ '%' := ne_of_isFormChar hform (by decide)
      simpa [unplus, hplus] using decode_cons hpercent r
  · split
    · next hblank =>
        -- a blank has become a plus sign, and becomes a blank again
        have hc : c = ' ' := by simpa using hblank
        subst hc
        exact decode_cons (by decide) r
    · -- there is no plus sign in an escape
      have hsame : ∀ d ∈ (Utf8.encodeChar c).flatMap escapeByte, unplus d = d := by
        intro d hd
        rcases List.mem_flatMap.1 hd with ⟨b, _, hb⟩
        exact if_neg (escapeByte_plain b d hb).2.2
      rw [List.map_congr_left hsame, List.map_id', decode_escapes]

theorem octets_formText (s : String) : octets (formText s) = Utf8.encode s := by
  rw [octets, formText_eq, Utf8.encode]
  induction s.toList with
  | nil => rfl
  | cons c cs ih => rw [List.flatMap_cons, List.map_append, decode_written, ih, List.flatMap_cons]

/-! ## Fields -/

/-- What a field is written as. -/
def part (f : String × String) : List Char := formText f.1 ++ '=' :: formText f.2

theorem form_eq (l : List (String × String)) :
    form l = String.ofList (['&'].intercalate (l.map part)) := rfl

/-- No separator of fields is written as a part of one. -/
theorem not_mem_part (f : String × String) : '&' ∉ part f := by
  intro hamp
  rcases List.mem_append.1 hamp with hname | hrest
  · exact (formText_plain f.1 _ hname).1 rfl
  · rcases List.mem_cons.1 hrest with heq | hvalue
    · exact absurd heq (by decide)
    · exact (formText_plain f.2 _ hvalue).1 rfl

theorem part_isEmpty (f : String × String) : (part f).isEmpty = false := by
  simp [part]

/-- A field is read as it was written. -/
theorem field_part (f : String × String) : field (part f) = (Utf8.encode f.1, Utf8.encode f.2) := by
  -- the first equals sign is the one behind the name
  have hname : ∀ c ∈ formText f.1, (c != '=') = true := by
    intro c hc
    simpa using (formText_plain f.1 c hc).2
  rw [field, part, List.takeWhile_append_of_pos hname, List.dropWhile_append_of_pos hname]
  simp [octets_formText]

/-! ## Forms -/

/-- The fields of a written form are those that were to be written, in their order. -/
theorem fields_form (l : List (String × String)) :
    fields (form l) = l.map fun f => (Utf8.encode f.1, Utf8.encode f.2) := by
  by_cases hl : l = []
  · subst hl
    rfl
  · have hplain : ∀ p ∈ l.map part, '&' ∉ p := List.forall_mem_map.2 fun f _ => not_mem_part f
    have hparts : l.map part ≠ [] := by simpa using hl
    -- an empty part would be passed over, but every part has its equals sign
    have hfull : (l.map part).filter (!·.isEmpty) = l.map part :=
      List.filter_eq_self.2 (List.forall_mem_map.2 fun f _ => by rw [part_isEmpty]; rfl)
    calc
      fields (form l) = ((l.map part).filter (!·.isEmpty)).map field := by
        rw [fields, form_eq, String.toList_ofList, List.splitOn_intercalate '&' hplain hparts]
      _ = (l.map part).map field := by rw [hfull]
      _ = l.map fun f => (Utf8.encode f.1, Utf8.encode f.2) := by
        rw [List.map_map]
        exact List.map_congr_left fun f _ => field_part f

/-- Under a name stand the values that were written for it. -/
theorem values_form (l : List (String × String)) (name : String) :
    values (form l) name = (l.filter fun f => f.1 = name).map fun f => Utf8.encode f.2 := by
  have hname : ∀ f : String × String, Utf8.encode f.1 = Utf8.encode name ↔ f.1 = name :=
    fun f => ⟨Utf8.encode_injective, congrArg Utf8.encode⟩
  rw [values, fields_form, List.filter_map, List.map_map]
  simp only [Function.comp_def, hname]

end Form
end Countersign
