import Countersign.Message
import Countersign.Token.Compact
import Mathlib.Data.List.Basic

/-!
# Compact tokens — what is assembled can be read again

A compact token is written from octets and read as a text.  Its digits spell the octets again, and
because none of them is a dot, the dots of the token are those between its parts:

* `Base64.decodeUrl?_encodeUrl` — the digits of octets spell these octets;
* `Token.split?_assemble` — an assembled token has the parts that it was assembled from;
* `Token.isValue_assemble` — an assembled token may be sent as the value of a field.
-/

namespace Countersign

/-! ## Digits -/

namespace Base64

theorem value?_digit {n : Nat} (h : n < 64) : value? '-' '_' (digit n) = some n := by
  have hall : ∀ i : Fin 64, value? '-' '_' (digit i) = some i.val := by decide
  exact hall ⟨n, h⟩

theorem digit_ne_dot {n : Nat} (h : n < 64) : digit n ≠ '.' := by
  have hall : ∀ i : Fin 64, digit i ≠ '.' := by decide
  exact hall ⟨n, h⟩

theorem isValue_digit {n : Nat} (h : n < 64) :
    Headers.isValue (Utf8.encodeChar (digit n)) = true := by
  have hall : ∀ i : Fin 64, Headers.isValue (Utf8.encodeChar (digit i)) = true := by decide
  exact hall ⟨n, h⟩

/-- All characters of a text of octets are digits. -/
theorem exists_digit {bs : Bytes} {c : Char} (h : c ∈ encodeChars bs) : ∃ n < 64, c = digit n := by
  induction bs using encodeChars.induct with
  | case1 x y z rest ih =>
      have hx := x.toNat_lt
      have hy := y.toNat_lt
      have hz := z.toNat_lt
      simp only [encodeChars, List.mem_cons] at h
      rcases h with rfl | rfl | rfl | rfl | hrest
      · exact ⟨_, by omega, rfl⟩
      · exact ⟨_, by omega, rfl⟩
      · exact ⟨_, by omega, rfl⟩
      · exact ⟨_, by omega, rfl⟩
      · exact ih hrest
  | case2 x y =>
      have hx := x.toNat_lt
      have hy := y.toNat_lt
      simp only [encodeChars, List.mem_cons, List.not_mem_nil, or_false] at h
      rcases h with rfl | rfl | rfl
      · exact ⟨_, by omega, rfl⟩
      · exact ⟨_, by omega, rfl⟩
      · exact ⟨_, by omega, rfl⟩
  | case3 x =>
      have hx := x.toNat_lt
      simp only [encodeChars, List.mem_cons, List.not_mem_nil, or_false] at h
      rcases h with rfl | rfl
      · exact ⟨_, by omega, rfl⟩
      · exact ⟨_, by omega, rfl⟩
  | case4 => cases h

theorem ofNat_eq_of_toNat_eq {n : Nat} {b : UInt8} (h : n = b.toNat) : UInt8.ofNat n = b := by
  rw [h, UInt8.ofNat_toNat]

/-- The values of the digits of octets spell these octets. -/
theorem exists_values (bs : Bytes) :
    ∃ vs, (encodeChars bs).mapM (value? '-' '_') = some vs ∧ ofValues false vs = some bs := by
  induction bs using encodeChars.induct with
  | case1 x y z rest ih =>
      have hx := x.toNat_lt
      have hy := y.toNat_lt
      have hz := z.toNat_lt
      rcases ih with ⟨vs, hvs, hrest⟩
      -- three octets are one number below `2 ^ 24`, and its four digits give it back
      obtain ⟨n, hn⟩ : ∃ n, n = x.toNat * 65536 + y.toNat * 256 + z.toNat := ⟨_, rfl⟩
      have hlead : n / 262144 < 64 := by omega
      have hback : n / 262144 * 262144 + n / 4096 % 64 * 4096 + n / 64 % 64 * 64 + n % 64 = n := by
        omega
      refine ⟨n / 262144 :: n / 4096 % 64 :: n / 64 % 64 :: n % 64 :: vs, ?_, ?_⟩
      · rw [encodeChars, ← hn]
        simp [hvs, value?_digit hlead, value?_digit (Nat.mod_lt _ (by decide : 64 > 0))]
      · have hfirst : UInt8.ofNat (n / 65536) = x := ofNat_eq_of_toNat_eq (by omega)
        have hsecond : UInt8.ofNat (n / 256 % 256) = y := ofNat_eq_of_toNat_eq (by omega)
        have hthird : UInt8.ofNat (n % 256) = z := ofNat_eq_of_toNat_eq (by omega)
        rw [ofValues, hback, hrest, hfirst, hsecond, hthird]
        rfl
  | case2 x y =>
      have hx := x.toNat_lt
      have hy := y.toNat_lt
      obtain ⟨n, hn⟩ : ∃ n, n = x.toNat * 256 + y.toNat := ⟨_, rfl⟩
      have hlead : n / 1024 < 64 := by omega
      have hlast : n % 16 * 4 < 64 := by omega
      refine ⟨[n / 1024, n / 16 % 64, n % 16 * 4], ?_, ?_⟩
      · rw [encodeChars, ← hn]
        simp [value?_digit hlead, value?_digit hlast,
          value?_digit (Nat.mod_lt _ (by decide : 64 > 0))]
      · have hback : n / 1024 * 4096 + n / 16 % 64 * 64 + n % 16 * 4 = n * 4 := by omega
        have hfirst : UInt8.ofNat (n * 4 / 1024) = x := ofNat_eq_of_toNat_eq (by omega)
        have hsecond : UInt8.ofNat (n * 4 / 4 % 256) = y := ofNat_eq_of_toNat_eq (by omega)
        simp only [ofValues, hback, hfirst, hsecond]
        simp
  | case3 x =>
      have hx := x.toNat_lt
      have hlead : x.toNat / 4 < 64 := by omega
      have hlast : x.toNat % 4 * 16 < 64 := by omega
      refine ⟨[x.toNat / 4, x.toNat % 4 * 16], ?_, ?_⟩
      · simp [encodeChars, value?_digit hlead, value?_digit hlast]
      · have hback : x.toNat / 4 * 64 + x.toNat % 4 * 16 = x.toNat * 16 := by omega
        have hfirst : UInt8.ofNat (x.toNat * 16 / 16) = x := ofNat_eq_of_toNat_eq (by omega)
        simp only [ofValues, hback, hfirst]
        simp
  | case4 => exact ⟨[], rfl, rfl⟩

theorem decodeUrl?_encodeUrl (bs : Bytes) : decodeUrl? (encodeUrl bs) = some bs := by
  rcases exists_values bs with ⟨vs, hvs, hspell⟩
  unfold decodeUrl? encodeUrl
  rw [String.toList_ofList, hvs]
  exact hspell

theorem dot_not_mem_encodeUrl (bs : Bytes) : '.' ∉ (encodeUrl bs).toList := by
  intro hmem
  unfold encodeUrl at hmem
  rw [String.toList_ofList] at hmem
  rcases exists_digit hmem with ⟨n, hn, hdot⟩
  exact digit_ne_dot hn hdot.symm

end Base64

/-! ## Texts as values of fields -/

theorem Headers.isValue_encode {s : String} :
    Headers.isValue (Utf8.encode s) = true ↔
      ∀ c ∈ s.toList, Headers.isValue (Utf8.encodeChar c) = true := by
  unfold Headers.isValue Utf8.encode
  rw [List.all_flatMap, List.all_eq_true]

/-! ## Parts -/

namespace Token

/-- The last dot is found where only characters without dots follow. -/
theorem splitLastDot_append {front back : List Char} (h : '.' ∉ back) :
    splitLastDot (front ++ '.' :: back) = some (front, back) := by
  have htail : ((front ++ '.' :: back).reverse.takeWhile (· != '.')).reverse = back := by
    have hreverse : (front ++ '.' :: back).reverse = back.reverse ++ ('.' :: front.reverse) := by
      simp
    have hall : ∀ c ∈ back.reverse, (c != '.') = true := by
      intro c hc
      have hne : c ≠ '.' := by
        rintro rfl
        exact h (List.mem_reverse.1 hc)
      simpa using hne
    rw [hreverse, List.takeWhile_append_of_pos hall]
    simp
  have hlonger : back.length < (front ++ '.' :: back).length := by
    rw [List.length_append, List.length_cons]
    omega
  have hfront : (front ++ '.' :: back).length - back.length - 1 = front.length := by
    rw [List.length_append, List.length_cons]
    omega
  unfold splitLastDot
  dsimp only
  rw [htail, if_pos hlonger, hfront, List.take_left]

theorem dot_not_mem_part (j : Json) : '.' ∉ (part j).toList := Base64.dot_not_mem_encodeUrl _

/-- An assembled token has the parts that it was assembled from. -/
theorem split?_assemble (header payload : Json) (sign : Bytes → Bytes) :
    split? (assemble header payload sign) =
      some ⟨part header, part payload,
        Base64.encodeUrl (sign (signed (part header) (part payload)))⟩ := by
  have htext : (assemble header payload sign).toList =
      ((part header).toList ++ '.' :: (part payload).toList) ++
        '.' :: (Base64.encodeUrl (sign (signed (part header) (part payload)))).toList := by
    simp [assemble]
  unfold split?
  rw [htext, splitLastDot_append (Base64.dot_not_mem_encodeUrl _)]
  simp [splitLastDot_append (dot_not_mem_part payload)]

/-- An assembled token may be sent as the value of a field. -/
theorem isValue_assemble (header payload : Json) (sign : Bytes → Bytes) :
    Headers.isValue (Utf8.encode (assemble header payload sign)) = true := by
  have hdigits : ∀ bs : Bytes, ∀ c ∈ (Base64.encodeUrl bs).toList,
      Headers.isValue (Utf8.encodeChar c) = true := by
    intro bs c hc
    unfold Base64.encodeUrl at hc
    rw [String.toList_ofList] at hc
    rcases Base64.exists_digit hc with ⟨n, hn, rfl⟩
    exact Base64.isValue_digit hn
  have hdot : ∀ c ∈ ".".toList, Headers.isValue (Utf8.encodeChar c) = true := by
    intro c hc
    have hc' : c = '.' := by simpa using hc
    rw [hc']
    decide
  rw [Headers.isValue_encode]
  intro c hc
  simp only [assemble, part, String.toList_append, List.mem_append] at hc
  -- a character stands in one of the three parts, or it is one of the dots between them
  rcases hc with (((hheader | hfirst) | hpayload) | hsecond) | hsignature
  · exact hdigits _ c hheader
  · exact hdot c hfirst
  · exact hdigits _ c hpayload
  · exact hdot c hsecond
  · exact hdigits _ c hsignature

end Token
end Countersign
