import Mathlib.Algebra.Ring.Int.Defs
import Mathlib.Data.Bool.AllAny
import DnsReconcile.Json.Document
import DnsReconcile.Json.Render
import DnsReconcile.Proofs.Numerals

/-!
JSON text written and read back.

A value whose numbers are integers of 64 bits is rendered as a text that is read as the
document with just the members of the value (`ofString?_render`). Numbers, strings and
values are each read off the front of a text, so that what follows them is left for the
next.
-/

namespace DnsReconcile

open Text

namespace Numeral

private theorem le_foldl_digits (ds : List Char) (s : Nat) :
    s ≤ ds.foldl (fun n c => 10 * n + digitValue c) s := by
  induction ds generalizing s with
  | nil => exact Nat.le_refl s
  | cons d rest ih =>
    rw [List.foldl_cons]
    have := ih (10 * s + digitValue d)
    omega

/-- Digits are all taken if the number they write fits into 64 bits. -/
theorem takeDigits_of_lt {ds : List Char} {s : Nat}
    (h : ds.foldl (fun n c => 10 * n + digitValue c) s < significandBound) :
    takeDigits s ds = (ds.foldl (fun n c => 10 * n + digitValue c) s, ds.length, 0) := by
  induction ds generalizing s with
  | nil => rfl
  | cons d rest ih =>
    rw [List.foldl_cons] at h
    have hfits : ¬ significandBound ≤ 10 * s + digitValue d :=
      Nat.not_le.2 ((le_foldl_digits rest _).trans_lt h)
    simp only [takeDigits, Nat.mul_comm s 10, if_neg hfits, ih h, List.foldl_cons,
      List.length_cons]

theorem takeDigits_decimal {n : Nat} (h : n < significandBound) :
    takeDigits 0 (decimal n) = (n, (decimal n).length, 0) := by
  have hvalue : (decimal n).foldl (fun n c => 10 * n + digitValue c) 0 = n := ofDigits_decimal n
  rw [takeDigits_of_lt (hvalue.symm ▸ h), hvalue]

end Numeral

/-- Whether a number is an integer of 64 bits, with or without a sign. -/
def Number.IsExact : Number → Prop
  | .int i => -2 ^ 63 ≤ i ∧ i < 2 ^ 64
  | .real _ => False

theorem Numeral.value?_int {i : Int} (h : Number.IsExact (.int i)) :
    Numeral.value? ⟨decide (i < 0), decimal i.natAbs, none, none⟩ = some (.int i) := by
  have hlow : -2 ^ 63 ≤ i := h.1
  have hhigh : i < 2 ^ 64 := h.2
  have hfits : i.natAbs < significandBound := by
    have hbound : significandBound = 2 ^ 64 := rfl
    omega
  simp only [value?, takeDigits_decimal hfits, ne_eq, not_true_eq_false, if_false]
  by_cases hneg : i < 0
  · have hsmall : ¬ (i.natAbs = 0 ∨ 2 ^ 63 < i.natAbs) := by omega
    have hvalue : -(i.natAbs : Int) = i := by omega
    rw [decide_eq_true hneg, if_neg (by decide)]
    exact (if_neg hsmall).trans (by rw [hvalue])
  · have hvalue : (i.natAbs : Int) = i := by omega
    rw [decide_eq_false hneg, if_pos (by decide), hvalue]

namespace Document

/-- What may follow a value without being taken for a part of it. -/
def EndsValue (rest : List Char) : Prop :=
  StopsAt (fun c => c.isDigit || c == '.' || c == 'e' || c == 'E') rest

theorem EndsValue.stopsAt {rest : List Char} (h : EndsValue rest) : StopsAt Char.isDigit rest := by
  intro c hc
  have hstop := h c hc
  simp only [Bool.or_eq_false_iff] at hstop
  exact hstop.1.1.1

theorem readDigits_append {ds rest : List Char} (hne : ds ≠ []) (hds : ∀ c ∈ ds, c.isDigit = true)
    (h : StopsAt Char.isDigit rest) : readDigits (ds ++ rest) = some (ds, rest) := by
  simp [readDigits, takeWhile_append_stop hds h, dropWhile_append_stop hds h, hne]

theorem readWhole_decimal (n : Nat) {rest : List Char} (h : StopsAt Char.isDigit rest) :
    readWhole (decimal n ++ rest) = some (decimal n, rest) := by
  by_cases hzero : n = 0
  · rw [hzero]
    cases rest with
    | nil => rfl
    | cons c cs =>
      have hc : c.isDigit = false := h c rfl
      change readWhole ('0' :: c :: cs) = some (['0'], c :: cs)
      simp [readWhole, hc]
  · obtain ⟨d, ds, hdigits⟩ := List.exists_cons_of_ne_nil (decimal_ne_nil n)
    have hd : d ≠ '0' := fun hd => hzero (eq_zero_of_head?_decimal (by rw [hdigits, hd]; rfl))
    have hread : readWhole (decimal n ++ rest) = readDigits (decimal n ++ rest) := by
      rw [hdigits, List.cons_append, readWhole]
      simp [hd]
    rw [hread]
    exact readDigits_append (decimal_ne_nil n) (fun c hc => isDigit_of_mem_decimal hc) h

theorem readFraction_of_endsValue {rest : List Char} (h : EndsValue rest) :
    readFraction rest = some (none, rest) := by
  cases rest with
  | nil => rfl
  | cons c cs =>
    have hc : c ≠ '.' := by
      rintro rfl
      cases h '.' rfl
    simp [readFraction, hc]

theorem readExponent_of_endsValue {rest : List Char} (h : EndsValue rest) :
    readExponent rest = some (none, rest) := by
  cases rest with
  | nil => rfl
  | cons c cs =>
    have hc : ¬ (c = 'e' ∨ c = 'E') := by
      rintro (rfl | rfl)
      · cases h 'e' rfl
      · cases h 'E' rfl
    simp [readExponent, hc]

theorem readUnsigned_decimal (negative : Bool) (n : Nat) {rest : List Char} (h : EndsValue rest) :
    readUnsigned negative (decimal n ++ rest) = some (⟨negative, decimal n, none, none⟩, rest) := by
  simp [readUnsigned, readWhole_decimal n h.stopsAt, readFraction_of_endsValue h,
    readExponent_of_endsValue h]

theorem readNumber_chars (i : Int) {rest : List Char} (h : EndsValue rest) :
    readNumber ((Number.int i).chars ++ rest) =
      some (⟨decide (i < 0), decimal i.natAbs, none, none⟩, rest) := by
  by_cases hneg : i < 0
  · rw [Number.chars, if_pos hneg, List.cons_append, readNumber, readUnsigned_decimal _ _ h,
      decide_eq_true hneg]
  · obtain ⟨d, ds, hdigits⟩ := List.exists_cons_of_ne_nil (decimal_ne_nil i.natAbs)
    have hd : d ≠ '-' := by
      rintro rfl
      cases isDigit_of_mem_decimal (hdigits ▸ List.mem_cons_self)
    have hread : readNumber (decimal i.natAbs ++ rest) =
        readUnsigned false (decimal i.natAbs ++ rest) := by
      rw [hdigits, List.cons_append]
      simp [readNumber, hd]
    rw [Number.chars, if_neg hneg, hread, readUnsigned_decimal _ _ h, decide_eq_false hneg]

/-- Control characters are written by two hexadecimal digits. -/
private theorem fourHexDigits?_control {n : Nat} (h : n < 32) :
    ∃ a b, Json.twoHexDigits n = [a, b] ∧ fourHexDigits? '0' '0' a b = some n := by
  have hall : ∀ m : Fin 32, Json.twoHexDigits m =
        [if m.val < 16 then '0' else '1', Nat.digitChar (m % 16)] ∧
      fourHexDigits? '0' '0' (if m.val < 16 then '0' else '1') (Nat.digitChar (m % 16)) =
        some m.val := by
    decide
  obtain ⟨hdigits, hvalue⟩ := hall ⟨n, h⟩
  exact ⟨_, _, hdigits, hvalue⟩

/-- A written character is read as itself. -/
theorem readString_charEscape (c : Char) (newestFirst rest : List Char) :
    readString ⟨newestFirst, none, true⟩ (Json.charEscape c ++ rest) =
      readString ⟨c :: newestFirst, none, true⟩ rest := by
  have hchar : ∀ {n : Nat}, c.toNat = n → c = Char.ofNat n := fun h => by
    rw [← h, Char.ofNat_toNat]
  unfold Json.charEscape
  split_ifs with hquote hbackslash hn hr ht hb hf hcontrol
  · subst hquote
    rfl
  · subst hbackslash
    rfl
  · subst hn
    rfl
  · subst hr
    rfl
  · subst ht
    rfl
  · rw [hchar hb]
    rfl
  · rw [hchar hf]
    rfl
  · obtain ⟨a, b, hdigits, hvalue⟩ := fourHexDigits?_control hcontrol
    have hlow : isHighSurrogate c.toNat = false ∧ isLowSurrogate c.toNat = false := by
      simp only [isHighSurrogate, isLowSurrogate, Bool.and_eq_false_iff, decide_eq_false_iff_not]
      omega
    rw [hdigits]
    simp only [List.cons_append, List.nil_append, readString, hvalue]
    simp [StringState.pushUnit, hlow, StringState.push, Char.ofNat_toNat]
  · rw [List.singleton_append, readString]
    · simp [hcontrol, StringState.push]
    · exact hquote
    · rintro _ _ _ _ _ rfl
      exact absurd rfl hbackslash
    · rintro _ _ rfl
      exact absurd rfl hbackslash

theorem readString_chars (cs newestFirst rest : List Char) :
    readString ⟨newestFirst, none, true⟩ (cs.flatMap Json.charEscape ++ '"' :: rest) =
      some (some (String.ofList (newestFirst.reverse ++ cs)), rest) := by
  induction cs generalizing newestFirst with
  | nil => simp [readString, StringState.finish]
  | cons c cs ih =>
    rw [List.flatMap_cons, List.append_assoc, readString_charEscape, ih]
    simp

/-- A written string is read as itself behind its opening quote. -/
theorem readString_stringChars (s : String) (rest : List Char) :
    ∃ cs, Json.stringChars s ++ rest = '"' :: cs ∧
      readString .start cs = some (some s, rest) := by
  refine ⟨s.toList.flatMap Json.charEscape ++ '"' :: rest, by simp [Json.stringChars], ?_⟩
  rw [StringState.start, readString_chars]
  simp

end Document

/-- The text of an integer starts with its sign or with a digit. -/
theorem Number.exists_chars_cons (i : Int) :
    ∃ c cs, (Number.int i).chars = c :: cs ∧ (c = '-' ∨ c.isDigit = true) := by
  by_cases hneg : i < 0
  · exact ⟨'-', _, by rw [Number.chars, if_pos hneg], .inl rfl⟩
  · obtain ⟨d, ds, hdigits⟩ := List.exists_cons_of_ne_nil (decimal_ne_nil i.natAbs)
    exact ⟨d, ds, by rw [Number.chars, if_neg hneg, hdigits],
      .inr (isDigit_of_mem_decimal (hdigits ▸ List.mem_cons_self))⟩

/-- What starts a number starts nothing else. -/
private theorem notMem_of_number {c : Char} (h : c = '-' ∨ c.isDigit = true) :
    c ∉ [' ', '\n', '\t', '\r', ']', '\x7d', 'n', 't', 'f', '"', '[', '\x7b'] := by
  rcases h with rfl | hdigit
  · decide
  · intro hmem
    have hall : ∀ d ∈ [' ', '\n', '\t', '\r', ']', '\x7d', 'n', 't', 'f', '"', '[', '\x7b'],
        d.isDigit = false :=
      List.all_iff_forall_prop.1 (by decide)
    rw [hall c hmem] at hdigit
    cases hdigit

namespace Json

/-- Whether all numbers in a value are integers of 64 bits. -/
inductive IsExact : Json → Prop where
  | null : IsExact .null
  | bool (b : Bool) : IsExact (.bool b)
  | number {n : Number} (h : n.IsExact) : IsExact (.number n)
  | string (s : String) : IsExact (.string s)
  | array {xs : List Json} (h : ∀ x ∈ xs, IsExact x) : IsExact (.array xs)
  | object {ms : List (String × Json)} (h : ∀ m ∈ ms, IsExact m.2) : IsExact (.object ms)

/-- The text of a value starts neither with white space nor with the end of a list. -/
theorem IsExact.exists_chars_cons {v : Json} (h : v.IsExact) :
    ∃ c cs, v.chars = c :: cs ∧ c ∉ [' ', '\n', '\t', '\r', ']', '\x7d'] := by
  cases h with
  | null => exact ⟨'n', _, rfl, by decide⟩
  | bool b =>
    cases b with
    | true => exact ⟨'t', _, rfl, by decide⟩
    | false => exact ⟨'f', _, rfl, by decide⟩
  | @number n hn =>
    cases n with
    | real x => cases hn
    | int i =>
      obtain ⟨c, cs, hchars, hc⟩ := Number.exists_chars_cons i
      exact ⟨c, cs, hchars, fun hmem => notMem_of_number hc (List.mem_append_left _ hmem)⟩
  | string s => exact ⟨'"', _, rfl, by decide⟩
  | array _ => exact ⟨'[', _, rfl, by decide⟩
  | object _ => exact ⟨'\x7b', _, rfl, by decide⟩

end Json

namespace Document

theorem skipSpace_cons {c : Char} (h : c ∉ [' ', '\n', '\t', '\r']) (cs : List Char) :
    skipSpace (c :: cs) = c :: cs := by
  simp_all [skipSpace, isSpace]

theorem readValue_number {c : Char} (h : c = '-' ∨ c.isDigit = true) (fuel : Nat)
    (cs : List Char) : readValue (fuel + 1) (c :: cs) =
      (readNumber (c :: cs)).map (fun (n, rest) => (.number n.value?, rest)) := by
  have hfront := notMem_of_number h
  rw [readValue, skipSpace_cons fun hmem => hfront (List.mem_append_left _ hmem)]
  split <;> first | rfl | (rename_i heq; cases heq; exact absurd hfront (by decide))

/-- Whether a value is read off the front of a text that starts with it. -/
def ReadsBack (v : Json) : Prop :=
  ∀ (fuel : Nat) (rest : List Char), v.chars.length ≤ fuel → EndsValue rest →
    readValue fuel (v.chars ++ rest) = some (ofJson v, rest)

theorem readsBack_number {i : Int} (h : Number.IsExact (.int i)) :
    ReadsBack (.number (.int i)) := by
  intro fuel rest hfuel hrest
  obtain ⟨c, cs, hchars, hc⟩ := Number.exists_chars_cons i
  have hread := readNumber_chars i hrest
  rw [Json.chars, hchars] at hfuel ⊢
  rw [hchars, List.cons_append] at hread
  cases fuel with
  | zero => cases hfuel
  | succ fuel =>
    rw [List.cons_append, readValue_number hc, hread]
    simp [ofJson, Numeral.value?_int h]

theorem readsBack_string (s : String) : ReadsBack (.string s) := by
  intro fuel rest hfuel _
  obtain ⟨cs, hchars, hread⟩ := readString_stringChars s rest
  cases fuel with
  | zero => cases hfuel
  | succ fuel =>
    rw [Json.chars, hchars, readValue, skipSpace_cons (by decide)]
    simp [hread, ofJson]

theorem endsValue_cons {c : Char} (h : c ∈ [',', ']', '\x7d']) (rest : List Char) :
    EndsValue (c :: rest) := by
  have hall : ∀ d ∈ [',', ']', '\x7d'],
      (d.isDigit || d == '.' || d == 'e' || d == 'E') = false :=
    List.all_iff_forall_prop.1 (by decide)
  rintro d ⟨⟩
  exact hall c h

/-- The elements of an array that are left are read behind those that were read before. -/
theorem readElements_chars {xs : List Json} (hne : xs ≠ []) (h : ∀ x ∈ xs, ReadsBack x)
    (fuel : Nat) (newestFirst : List Document) (rest : List Char)
    (hfuel : (Json.elementChars xs).length ≤ fuel) :
    readElements fuel newestFirst (Json.elementChars xs ++ rest) =
      some (.array (newestFirst.reverse ++ ofElements xs), rest) := by
  induction xs generalizing fuel newestFirst with
  | nil => exact absurd rfl hne
  | cons x others ih =>
    obtain ⟨hx, hothers⟩ := List.forall_mem_cons.1 h
    cases others with
    | nil =>
      simp only [Json.elementChars, Json.furtherElementChars, List.length_append,
        List.length_singleton] at hfuel ⊢
      obtain ⟨fuel, rfl⟩ : ∃ k, fuel = k + 1 := ⟨fuel - 1, by omega⟩
      have hread := hx fuel (']' :: rest) (by omega) (endsValue_cons (by decide) rest)
      rw [List.append_assoc, List.singleton_append, readElements, hread]
      simp [skipSpace_cons, ofElements]
    | cons y others =>
      have hchars : Json.elementChars (x :: y :: others) =
          x.chars ++ ',' :: Json.elementChars (y :: others) := rfl
      rw [hchars, List.length_append, List.length_cons] at hfuel
      obtain ⟨fuel, rfl⟩ : ∃ k, fuel = k + 1 := ⟨fuel - 1, by omega⟩
      have hread := hx fuel (',' :: (Json.elementChars (y :: others) ++ rest)) (by omega)
        (endsValue_cons (by decide) _)
      have hfurther := ih (List.cons_ne_nil y others) hothers fuel (ofJson x :: newestFirst)
        (by omega)
      rw [hchars, List.append_assoc, List.cons_append, readElements, hread]
      simp only [skipSpace_cons (c := ',') (by decide), hfurther]
      simp [ofElements]

/-- The members of an object that are left are read behind those that were read before. -/
theorem readMembers_chars {ms : List (String × Json)} (hne : ms ≠ [])
    (h : ∀ m ∈ ms, ReadsBack m.2) (fuel : Nat) (newestFirst : List (Option String × Document))
    (rest : List Char) (hfuel : (Json.memberChars ms).length ≤ fuel) :
    readMembers fuel newestFirst (Json.memberChars ms ++ rest) =
      some (.object (newestFirst.reverse ++ ofMembers ms), rest) := by
  induction ms generalizing fuel newestFirst with
  | nil => exact absurd rfl hne
  | cons m others ih =>
    obtain ⟨name, v⟩ := m
    have hv : ReadsBack v := h _ List.mem_cons_self
    have hothers : ∀ m ∈ others, ReadsBack m.2 := fun m hm => h m (List.mem_cons_of_mem _ hm)
    have hchars : Json.memberChars ((name, v) :: others) =
        Json.stringChars name ++ ':' :: v.chars ++ Json.furtherMemberChars others := rfl
    rw [hchars] at hfuel ⊢
    simp only [List.length_append, List.length_cons] at hfuel
    obtain ⟨fuel, rfl⟩ : ∃ k, fuel = k + 1 := ⟨fuel - 1, by omega⟩
    have hread := hv fuel (Json.furtherMemberChars others ++ rest) (by omega)
    obtain ⟨cs, hname, hstring⟩ := readString_stringChars name
      (':' :: v.chars ++ (Json.furtherMemberChars others ++ rest))
    rw [List.append_assoc, List.append_assoc, hname, readMembers, skipSpace_cons (by decide)]
    simp only [hstring, List.cons_append, skipSpace_cons (c := ':') (by decide)]
    cases others with
    | nil =>
      rw [hread (endsValue_cons (by decide) rest)]
      simp [Json.furtherMemberChars, skipSpace_cons, ofMembers]
    | cons n others =>
      have hfurther : Json.furtherMemberChars (n :: others) =
          ',' :: Json.memberChars (n :: others) := rfl
      rw [hfurther, List.length_cons] at hfuel
      rw [hread (endsValue_cons (by decide) _), hfurther]
      simp only [List.cons_append, skipSpace_cons (c := ',') (by decide)]
      rw [ih (List.cons_ne_nil n others) hothers fuel _ (by omega)]
      simp [ofMembers]

theorem readValue_array {c : Char} (h : c ∉ [' ', '\n', '\t', '\r', ']', '\x7d']) (fuel : Nat)
    (cs : List Char) : readValue (fuel + 1) ('[' :: c :: cs) = readElements fuel [] (c :: cs) := by
  have hend : c ≠ ']' := by
    rintro rfl
    exact h (by decide)
  rw [readValue, skipSpace_cons (by decide)]
  simp [skipSpace_cons fun hmem => h (List.mem_append_left [']', '\x7d'] hmem), hend]

theorem readValue_object (fuel : Nat) (cs : List Char) :
    readValue (fuel + 1) ('\x7b' :: '"' :: cs) = readMembers fuel [] ('"' :: cs) := by
  rw [readValue, skipSpace_cons (by decide)]
  simp [skipSpace_cons]

theorem readsBack_array {xs : List Json} (hexact : ∀ x ∈ xs, x.IsExact)
    (h : ∀ x ∈ xs, ReadsBack x) : ReadsBack (.array xs) := by
  intro fuel rest hfuel _
  rw [Json.chars, List.length_cons] at hfuel
  obtain ⟨fuel, rfl⟩ : ∃ k, fuel = k + 1 := ⟨fuel - 1, by omega⟩
  rw [Json.chars, List.cons_append]
  cases xs with
  | nil => simp [readValue, Json.elementChars, skipSpace_cons, ofJson, ofElements]
  | cons x others =>
    have hread := readElements_chars (List.cons_ne_nil x others) h fuel [] rest (by omega)
    obtain ⟨c, cs, hchars, hc⟩ := (hexact x List.mem_cons_self).exists_chars_cons
    rw [Json.elementChars, hchars, List.cons_append, List.cons_append] at hread ⊢
    rw [readValue_array hc, hread]
    rfl

theorem readsBack_object {ms : List (String × Json)} (h : ∀ m ∈ ms, ReadsBack m.2) :
    ReadsBack (.object ms) := by
  intro fuel rest hfuel _
  rw [Json.chars, List.length_cons] at hfuel
  obtain ⟨fuel, rfl⟩ : ∃ k, fuel = k + 1 := ⟨fuel - 1, by omega⟩
  rw [Json.chars, List.cons_append]
  cases ms with
  | nil => simp [readValue, Json.memberChars, skipSpace_cons, ofJson, ofMembers]
  | cons m others =>
    have hread := readMembers_chars (List.cons_ne_nil m others) h fuel [] rest (by omega)
    rw [Json.memberChars, Json.stringChars, List.cons_append, List.cons_append, List.cons_append,
      List.cons_append] at hread ⊢
    rw [readValue_object, hread]
    rfl

/-- Every value with exact numbers is read back. -/
theorem readsBack_of_isExact {v : Json} (h : v.IsExact) : ReadsBack v := by
  induction h with
  | null =>
    intro fuel rest hfuel _
    cases fuel with
    | zero => cases hfuel
    | succ fuel => rfl
  | bool b =>
    intro fuel rest hfuel _
    cases fuel with
    | zero => cases b <;> cases hfuel
    | succ fuel => cases b <;> rfl
  | @number n hn =>
    cases n with
    | real x => cases hn
    | int i => exact readsBack_number hn
  | string s => exact readsBack_string s
  | array hexact ih => exact readsBack_array hexact ih
  | object _ ih => exact readsBack_object ih

/-- A rendered value is read as the document with its members. -/
theorem ofString?_render {v : Json} (h : v.IsExact) :
    ofString? v.render = some (ofJson v) := by
  have hread := readsBack_of_isExact h (2 * v.chars.length + 1) [] (by omega) nofun
  rw [List.append_nil] at hread
  rw [ofString?, Json.render, String.toList_ofList, read?, hread]
  rfl

end Document

end DnsReconcile
