import Mathlib.Algebra.Ring.Nat
import Mathlib.Data.List.TakeWhile
import DnsReconcile.Text.Blank
import DnsReconcile.Text.Digits

/-!
Numbers written and read back.

The decimal and the hexadecimal digits of a number name that number
(`ofDigits_decimal`, `ofHexDigits_hexadecimal`). They are digits and nothing
else, so a run of them ends where the next text starts with another character,
and none of them is white space.
-/

namespace DnsReconcile.Text

def StopsAt (p : Char → Bool) (rest : List Char) : Prop := ∀ c ∈ rest.head?, p c = false

theorem takeWhile_append_stop {p : Char → Bool} {ds rest : List Char} (hds : ∀ c ∈ ds, p c = true)
    (hrest : StopsAt p rest) : (ds ++ rest).takeWhile p = ds := by
  rw [List.takeWhile_append_of_pos hds]
  cases rest with
  | nil => simp
  | cons c cs =>
    have hc : p c = false := hrest c rfl
    simp [hc]

theorem dropWhile_append_stop {p : Char → Bool} {ds rest : List Char} (hds : ∀ c ∈ ds, p c = true)
    (hrest : StopsAt p rest) : (ds ++ rest).dropWhile p = rest := by
  rw [List.dropWhile_append_of_pos hds]
  cases rest with
  | nil => rfl
  | cons c cs =>
    have hc : p c = false := hrest c rfl
    simp [hc]

theorem ofDigits_decimal (n : Nat) : ofDigits (decimal n) = n :=
  Nat.ofDigitChars_ten_toDigits

theorem isDigit_of_mem_decimal {n : Nat} {c : Char} (h : c ∈ decimal n) : c.isDigit = true :=
  Nat.isDigit_of_mem_toDigits (by decide) (by decide) h

theorem decimal_ne_nil (n : Nat) : decimal n ≠ [] :=
  Nat.toDigits_ne_nil

theorem length_decimal_le {n k : Nat} (hk : 0 < k) (h : n < 10 ^ k) : (decimal n).length ≤ k :=
  (Nat.length_toDigits_le_iff (by decide) hk).2 h

/-- Only zero is written with a zero in front. -/
theorem eq_zero_of_head?_decimal {n : Nat} (h : (decimal n).head? = some '0') : n = 0 := by
  unfold decimal at h
  induction n using Nat.base_induction 10 (by decide) with
  | single m hm =>
    rw [Nat.toDigits_of_lt_base hm, List.head?_cons, Option.some.injEq] at h
    have hval := Nat.toNat_digitChar_of_lt_ten hm
    rw [h] at hval
    have hzero : '0'.toNat = 48 := rfl
    omega
  | digit m k hk hm ih =>
    obtain ⟨c, cs, hcs⟩ := List.exists_cons_of_ne_nil (decimal_ne_nil m)
    have hdigits : Nat.toDigits 10 m = c :: cs := hcs
    rw [← Nat.toDigits_append_toDigits (by decide) hm hk, hdigits, List.cons_append,
      List.head?_cons] at h
    rw [hdigits, List.head?_cons] at ih
    have hzero := ih h
    omega

private theorem hexValue?_digitChar {d : Nat} (h : d < 16) : hexValue? d.digitChar = some d := by
  have hall : ∀ e : Fin 16, hexValue? (Nat.digitChar e) = some e.val := by decide
  exact hall ⟨d, h⟩

private theorem ofHexDigits_append_digit (ds : List Char) {d : Nat} (h : d < 16) :
    ofHexDigits (ds ++ [d.digitChar]) = 16 * ofHexDigits ds + d := by
  simp [ofHexDigits, List.foldl_append, hexValue?_digitChar h]

theorem ofHexDigits_hexadecimal (n : Nat) : ofHexDigits (hexadecimal n) = n := by
  unfold hexadecimal
  induction n using Nat.base_induction 16 (by decide) with
  | single m hm =>
    rw [Nat.toDigits_of_lt_base hm]
    have hdigit := ofHexDigits_append_digit [] hm
    simpa [ofHexDigits] using hdigit
  | digit m k hk hm ih =>
    rw [← Nat.toDigits_append_toDigits (by decide) hm hk, Nat.toDigits_of_lt_base hk,
      ofHexDigits_append_digit _ hk, ih]

theorem isHexDigit_of_mem_hexadecimal {n : Nat} {c : Char} (h : c ∈ hexadecimal n) :
    isHexDigit c = true := by
  have hdigit : ∀ {d : Nat}, d < 16 → isHexDigit d.digitChar = true := fun hd => by
    rw [isHexDigit, hexValue?_digitChar hd]
    rfl
  unfold hexadecimal at h
  induction n using Nat.base_induction 16 (by decide) with
  | single m hm =>
    rw [Nat.toDigits_of_lt_base hm, List.mem_singleton] at h
    rw [h]
    exact hdigit hm
  | digit m k hk hm ih =>
    rw [← Nat.toDigits_append_toDigits (by decide) hm hk, Nat.toDigits_of_lt_base hk,
      List.mem_append, List.mem_singleton] at h
    rcases h with h | rfl
    · exact ih h
    · exact hdigit hk

theorem hexadecimal_ne_nil (n : Nat) : hexadecimal n ≠ [] :=
  Nat.toDigits_ne_nil

theorem length_hexadecimal_le {n k : Nat} (hk : 0 < k) (h : n < 16 ^ k) :
    (hexadecimal n).length ≤ k :=
  (Nat.length_toDigits_le_iff (by decide) hk).2 h

theorem toNat_of_isDigit {c : Char} (h : c.isDigit = true) : 48 ≤ c.toNat ∧ c.toNat ≤ 57 := by
  unfold Char.isDigit at h
  simp only [Bool.and_eq_true, decide_eq_true_eq, ge_iff_le, UInt32.le_iff_toNat_le] at h
  exact h

theorem toNat_of_isHexDigit {c : Char} (h : isHexDigit c = true) :
    48 ≤ c.toNat ∧ c.toNat ≤ 57 ∨ 65 ≤ c.toNat ∧ c.toNat ≤ 70 ∨ 97 ≤ c.toNat ∧ c.toNat ≤ 102 := by
  unfold isHexDigit hexValue? at h
  simp only at h
  split at h
  · exact .inl ‹_›
  · split at h
    · exact .inr (.inr ‹_›)
    · split at h
      · exact .inr (.inl ‹_›)
      · cases h

theorem isBlank_of_isHexDigit {c : Char} (h : isHexDigit c = true) : isBlank c = false := by
  have hrange := toNat_of_isHexDigit h
  unfold isBlank
  simp only [Bool.or_eq_false_iff, Bool.and_eq_false_iff, decide_eq_false_iff_not,
    beq_eq_false_iff_ne]
  omega

theorem isBlank_of_isDigit {c : Char} (h : c.isDigit = true) : isBlank c = false := by
  have hrange := toNat_of_isDigit h
  unfold isBlank
  simp only [Bool.or_eq_false_iff, Bool.and_eq_false_iff, decide_eq_false_iff_not,
    beq_eq_false_iff_ne]
  omega

/-- A text without white space is left as it is by trimming. -/
theorem trim_eq_of_no_blank {cs : List Char} (h : ∀ c ∈ cs, isBlank c = false) : trim cs = cs := by
  apply trim_eq_self
  · exact List.dropWhile_eq_self_iff.2 (fun hl => by simp [h _ (List.getElem_mem _)])
  · have hrev : cs.reverse.dropWhile isBlank = cs.reverse :=
      List.dropWhile_eq_self_iff.2 (fun hl => by
        rw [Bool.not_eq_true]
        exact h _ (List.mem_reverse.1 (List.getElem_mem hl)))
    rw [dropEndWhile, hrev, List.reverse_reverse]

end DnsReconcile.Text
