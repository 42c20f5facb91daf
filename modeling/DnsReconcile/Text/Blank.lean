/-!
White space and the trimming of text.

`isBlank` is the Unicode property White_Space. `trim` removes it from both
ends of a text, and `dropEndWhile` is the general form of the removal at the
end, which names also use for their final dots.
-/

namespace DnsReconcile.Text

/-- The characters with the Unicode property White_Space. The zero width
space, the byte order mark and the unit separator do not have it. -/
def isBlank (c : Char) : Bool :=
  let n := c.toNat
  (0x09 ≤ n && n ≤ 0x0D) || n == 0x20 || n == 0x85 || n == 0xA0 || n == 0x1680 ||
    (0x2000 ≤ n && n ≤ 0x200A) || n == 0x2028 || n == 0x2029 || n == 0x202F ||
    n == 0x205F || n == 0x3000

/-- The list without the longest run of members with `p` at its end. -/
def dropEndWhile {α : Type} (p : α → Bool) (xs : List α) : List α :=
  (xs.reverse.dropWhile p).reverse

def trim (cs : List Char) : List Char :=
  dropEndWhile isBlank (cs.dropWhile isBlank)

def trimmed (s : String) : String :=
  String.ofList (trim s.toList)

section dropEndWhile

variable {α : Type} {p : α → Bool}

@[simp] theorem dropEndWhile_nil : dropEndWhile p [] = [] := rfl

theorem dropEndWhile_concat_of_pos {x : α} (h : p x = true) (xs : List α) :
    dropEndWhile p (xs ++ [x]) = dropEndWhile p xs := by
  simp [dropEndWhile, h]

theorem dropEndWhile_concat_of_neg {x : α} (h : p x = false) (xs : List α) :
    dropEndWhile p (xs ++ [x]) = xs ++ [x] := by
  simp [dropEndWhile, h]

/-- What is left is empty or ends in a member without `p`. -/
theorem dropEndWhile_eq_nil_or_concat (p : α → Bool) (xs : List α) :
    dropEndWhile p xs = [] ∨ ∃ ys x, dropEndWhile p xs = ys ++ [x] ∧ p x = false := by
  unfold dropEndWhile
  cases h : xs.reverse.dropWhile p with
  | nil => exact .inl rfl
  | cons x ys =>
    refine .inr ⟨ys.reverse, x, by simp, ?_⟩
    have hx := List.head?_dropWhile_not p xs.reverse
    simpa [h] using hx

theorem dropEndWhile_dropEndWhile (xs : List α) :
    dropEndWhile p (dropEndWhile p xs) = dropEndWhile p xs := by
  rcases dropEndWhile_eq_nil_or_concat p xs with h | ⟨ys, x, h, hx⟩
  · simp [h]
  · rw [h, dropEndWhile_concat_of_neg hx]

/-- What is left is a beginning of the list. -/
theorem dropEndWhile_isPrefix (p : α → Bool) (xs : List α) :
    dropEndWhile p xs <+: xs := by
  unfold dropEndWhile
  have h := List.dropWhile_suffix (l := xs.reverse) p
  rw [← List.reverse_prefix] at h
  simpa using h

theorem dropEndWhile_map {β : Type} {q : β → Bool} (f : β → α) (h : ∀ b, p (f b) = q b)
    (xs : List β) : dropEndWhile p (xs.map f) = (dropEndWhile q xs).map f := by
  have hpq : p ∘ f = q := funext h
  simp [dropEndWhile, ← List.map_reverse, List.dropWhile_map, hpq]

end dropEndWhile

/-- A text that neither starts nor ends with white space keeps its ends. -/
theorem trim_eq_self {cs : List Char} (hd : cs.dropWhile isBlank = cs)
    (tl : dropEndWhile isBlank cs = cs) : trim cs = cs := by
  rw [trim, hd, tl]

/-- Trimmed text starts with no white space. -/
theorem dropWhile_isBlank_trim (cs : List Char) :
    (trim cs).dropWhile isBlank = trim cs := by
  have hp := dropEndWhile_isPrefix isBlank (cs.dropWhile isBlank)
  rw [← trim] at hp
  cases ht : trim cs with
  | nil => rfl
  | cons c rest =>
    rw [ht] at hp
    obtain ⟨tail, htail⟩ := hp
    have hc := List.head?_dropWhile_not isBlank cs
    rw [← htail] at hc
    simp only [List.cons_append, List.head?_cons] at hc
    simp [hc]

theorem trim_trim (cs : List Char) : trim (trim cs) = trim cs := by
  apply trim_eq_self (dropWhile_isBlank_trim cs)
  rw [trim, dropEndWhile_dropEndWhile]

end DnsReconcile.Text
