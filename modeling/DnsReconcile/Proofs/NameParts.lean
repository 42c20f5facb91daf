import Mathlib.Data.List.Infix
import Mathlib.Data.String.Basic
import DnsReconcile.Name

/-!
The parts of a name.

The parts of a text are its longest pieces without a dot: each is a piece of the text
(`isInfix_of_mem_splitDots`), and each piece without a dot lies in a part
(`exists_part_of_isInfix`). A text is `Plain` if it is in ASCII and no part of it is longer
than a label may be. Names are made by trimming, lowering, joining and closing by a dot,
which all keep a text plain, so that a plain spelling in a zone with a plain spelling has
a plain canonical form (`Plain.qualify`).
-/

namespace DnsReconcile

open Text

/-- What stands behind the last occurrence of a letter. -/
theorem append_cons_inj {α : Type} {xs ys s t : List α} {a : α} (hs : a ∉ s) (ht : a ∉ t)
    (h : xs ++ a :: s = ys ++ a :: t) : xs = ys ∧ s = t := by
  rcases List.append_eq_append_iff.1 h with ⟨zs, rfl, hrest⟩ | ⟨zs, rfl, hrest⟩
  · cases zs with
    | nil => exact ⟨(List.append_nil xs).symm, (List.cons.inj hrest).2⟩
    | cons z zs =>
      refine absurd ?_ hs
      rw [(List.cons.inj hrest).2]
      simp
  · cases zs with
    | nil => exact ⟨List.append_nil ys, (List.cons.inj hrest).2.symm⟩
    | cons z zs =>
      refine absurd ?_ ht
      rw [(List.cons.inj hrest).2]
      simp

theorem splitDots_eq_splitOn (cs : List Char) : splitDots cs = cs.splitOn '.' := by
  induction cs with
  | nil => rfl
  | cons c rest ih =>
    obtain ⟨part, parts, hparts⟩ := List.exists_cons_of_ne_nil (List.splitOn_ne_nil '.' rest)
    rw [splitDots, List.splitOn_cons_eq_if_modifyHead, ih, hparts]
    simp

theorem splitDots_append_dot (xs ys : List Char) :
    splitDots (xs ++ '.' :: ys) = splitDots xs ++ splitDots ys := by
  simp only [splitDots_eq_splitOn, List.splitOn_append_cons_self]

/-- A character that is no dot goes to the first part. -/
theorem exists_splitDots_cons {c : Char} (hc : c ≠ '.') (rest : List Char) :
    ∃ part parts, splitDots rest = part :: parts ∧
      splitDots (c :: rest) = (c :: part) :: parts := by
  obtain ⟨part, parts, hparts⟩ := List.exists_cons_of_ne_nil (List.splitOn_ne_nil '.' rest)
  rw [← splitDots_eq_splitOn] at hparts
  exact ⟨part, parts, hparts, by rw [splitDots, if_neg hc, hparts]⟩

theorem splitDots_map {f : Char → Char} (hf : ∀ c, f c = '.' ↔ c = '.') (cs : List Char) :
    splitDots (cs.map f) = (splitDots cs).map (List.map f) := by
  induction cs with
  | nil => rfl
  | cons c rest ih =>
    by_cases hc : c = '.'
    · simp [splitDots, hc, (hf '.').2 rfl, ih]
    · obtain ⟨part, parts, hparts, hcons⟩ := exists_splitDots_cons hc rest
      rw [hcons, List.map_cons, splitDots, if_neg (mt (hf c).1 hc), ih, hparts]
      rfl

/-- The first part is a beginning of the text, and the others lie in it. -/
private theorem pieces_of_splitDots {cs part : List Char} {parts : List (List Char)}
    (h : splitDots cs = part :: parts) : part <+: cs ∧ ∀ p ∈ parts, p <:+: cs := by
  induction cs generalizing part parts with
  | nil =>
    cases h
    exact ⟨List.prefix_rfl, fun p hp => by cases hp⟩
  | cons c rest ih =>
    by_cases hc : c = '.'
    · rw [splitDots, if_pos hc] at h
      cases h
      refine ⟨List.nil_prefix, fun p hp => List.infix_cons ?_⟩
      obtain ⟨first, others, hrest⟩ := List.exists_cons_of_ne_nil (List.ne_nil_of_mem hp)
      rw [hrest] at hp
      rcases List.mem_cons.1 hp with rfl | hp
      · exact (ih hrest).1.isInfix
      · exact (ih hrest).2 p hp
    · obtain ⟨first, others, hrest, hcons⟩ := exists_splitDots_cons hc rest
      rw [hcons] at h
      cases h
      obtain ⟨hfirst, hothers⟩ := ih hrest
      exact ⟨(List.prefix_cons_inj c).2 hfirst, fun p hp => List.infix_cons (hothers p hp)⟩

theorem isInfix_of_mem_splitDots {cs part : List Char} (h : part ∈ splitDots cs) :
    part <:+: cs := by
  obtain ⟨first, others, hparts⟩ := List.exists_cons_of_ne_nil (List.ne_nil_of_mem h)
  rw [hparts] at h
  rcases List.mem_cons.1 h with rfl | h
  · exact (pieces_of_splitDots hparts).1.isInfix
  · exact (pieces_of_splitDots hparts).2 part h

/-- A beginning without a dot lies in the first part. -/
private theorem exists_first_of_isPrefix {cs piece : List Char} (h : piece <+: cs)
    (hdot : '.' ∉ piece) : ∃ part parts, splitDots cs = part :: parts ∧ piece <+: part := by
  induction cs generalizing piece with
  | nil =>
    rw [List.prefix_nil] at h
    exact ⟨[], [], rfl, h ▸ List.prefix_rfl⟩
  | cons c rest ih =>
    rcases List.prefix_cons_iff.1 h with rfl | ⟨tail, rfl, htail⟩
    · obtain ⟨part, parts, hparts⟩ :=
        List.exists_cons_of_ne_nil (List.splitOn_ne_nil '.' (c :: rest))
      exact ⟨part, parts, (splitDots_eq_splitOn _).trans hparts, List.nil_prefix⟩
    · rw [List.mem_cons, not_or] at hdot
      obtain ⟨part, parts, hrest, hcons⟩ := exists_splitDots_cons (Ne.symm hdot.1) rest
      obtain ⟨first, others, hfirst, hpiece⟩ := ih htail hdot.2
      rw [hrest] at hfirst
      cases hfirst
      exact ⟨c :: part, parts, hcons, (List.prefix_cons_inj c).2 hpiece⟩

/-- A piece without a dot lies in a part. -/
theorem exists_part_of_isInfix {cs piece : List Char} (h : piece <:+: cs) (hdot : '.' ∉ piece) :
    ∃ part ∈ splitDots cs, piece <:+: part := by
  induction cs with
  | nil => exact ⟨[], by simp [splitDots], h⟩
  | cons c rest ih =>
    rcases List.infix_cons_iff.1 h with hfirst | hrest
    · obtain ⟨part, parts, hparts, hpiece⟩ := exists_first_of_isPrefix hfirst hdot
      exact ⟨part, hparts ▸ List.mem_cons_self, hpiece.isInfix⟩
    · obtain ⟨part, hpart, hpiece⟩ := ih hrest
      by_cases hc : c = '.'
      · exact ⟨part, by simp [splitDots, hc, hpart], hpiece⟩
      · obtain ⟨first, others, hsplit, hcons⟩ := exists_splitDots_cons hc rest
        rw [hsplit] at hpart
        rcases List.mem_cons.1 hpart with rfl | hpart
        · exact ⟨c :: part, hcons ▸ List.mem_cons_self, List.infix_cons hpiece⟩
        · exact ⟨part, hcons ▸ List.mem_cons_of_mem _ hpart, hpiece⟩

theorem dot_notMem_of_mem_splitDots {cs part : List Char} (h : part ∈ splitDots cs) :
    '.' ∉ part := by
  induction cs generalizing part with
  | nil =>
    rw [List.mem_singleton.1 h]
    exact List.not_mem_nil
  | cons c rest ih =>
    by_cases hc : c = '.'
    · rw [splitDots, if_pos hc] at h
      rcases List.mem_cons.1 h with rfl | h
      · exact List.not_mem_nil
      · exact ih h
    · obtain ⟨first, others, hrest, hcons⟩ := exists_splitDots_cons hc rest
      rw [hcons] at h
      rcases List.mem_cons.1 h with rfl | h
      · rw [List.mem_cons, not_or]
        exact ⟨Ne.symm hc, ih (hrest ▸ List.mem_cons_self)⟩
      · exact ih (hrest ▸ List.mem_cons_of_mem _ h)

/-- Final dots bring no parts but empty ones. -/
theorem mem_splitDots_dropEndWhile {cs part : List Char} (h : part ∈ splitDots cs) :
    part = [] ∨ part ∈ splitDots (dropEndWhile (· == '.') cs) := by
  induction cs using List.reverseRecOn with
  | nil => exact .inr h
  | append_singleton cs c ih =>
    by_cases hc : c = '.'
    · subst hc
      rw [dropEndWhile_concat_of_pos rfl]
      rw [splitDots_append_dot] at h
      rcases List.mem_append.1 h with h | h
      · exact ih h
      · exact .inl (List.mem_singleton.1 h)
    · rw [dropEndWhile_concat_of_neg (by simpa using hc)]
      exact .inr h

/-- A text in ASCII with no part longer than a label may be. -/
structure Plain (cs : List Char) : Prop where
  ascii : ∀ c ∈ cs, c.toNat < 128
  parts : ∀ part ∈ splitDots cs, part.length ≤ 63

theorem trim_isInfix (cs : List Char) : trim cs <:+: cs :=
  (dropEndWhile_isPrefix _ _).isInfix.trans (List.dropWhile_suffix _).isInfix

/-- A qualified name is that of the zone, that of the spelling, or the two joined. -/
theorem Name.qualify_cases (name zone : String) :
    qualify name zone = ofString zone ∨ qualify name zone = ofString name ∨
      qualify name zone =
        ofString (String.ofList (trim name.toList ++ ['.']) ++ (ofString zone).text) := by
  unfold qualify
  dsimp only
  split_ifs
  · exact .inl rfl
  · exact .inr (.inl rfl)
  · exact .inr (.inl rfl)
  · exact .inr (.inr rfl)

theorem utf8ByteSize_of_ascii {cs : List Char} (h : ∀ c ∈ cs, c.toNat < 128) :
    (String.ofList cs).utf8ByteSize = cs.length := by
  rw [String.utf8ByteSize_ofList]
  induction cs with
  | nil => rfl
  | cons c rest ih =>
    have hc : c.utf8Size = 1 := by
      rw [Char.utf8Size_eq_one_iff, UInt32.le_iff_toNat_le]
      exact Nat.le_of_lt_succ (h c List.mem_cons_self)
    rw [String.utf8Len_cons, ih (fun d hd => h d (List.mem_cons_of_mem _ hd)), hc,
      List.length_cons]

namespace Plain

variable {xs ys : List Char}

theorem nil : Plain [] := ⟨by simp, by simp [splitDots]⟩

/-- The spelling of the zone itself. -/
theorem apexSign : Plain "@".toList := by
  have hchars : "@".toList = ['@'] := rfl
  rw [hchars]
  exact ⟨by simp, by simp [splitDots]⟩

theorem of_isInfix (h : Plain ys) (hxs : xs <:+: ys) : Plain xs := by
  refine ⟨fun c hc => h.ascii c (hxs.subset hc), fun part hpart => ?_⟩
  obtain ⟨whole, hwhole, hpiece⟩ := exists_part_of_isInfix
    ((isInfix_of_mem_splitDots hpart).trans hxs) (dot_notMem_of_mem_splitDots hpart)
  exact hpiece.length_le.trans (h.parts whole hwhole)

theorem append_dot (hxs : Plain xs) (hys : Plain ys) : Plain (xs ++ '.' :: ys) := by
  refine ⟨fun c hc => ?_, fun part hpart => ?_⟩
  · rcases List.mem_append.1 hc with hc | hc
    · exact hxs.ascii c hc
    · rcases List.mem_cons.1 hc with rfl | hc
      · decide
      · exact hys.ascii c hc
  · rw [splitDots_append_dot] at hpart
    rcases List.mem_append.1 hpart with hpart | hpart
    · exact hxs.parts part hpart
    · exact hys.parts part hpart

theorem map_toLower (h : Plain xs) : Plain (xs.map Char.toLower) := by
  refine ⟨fun c hc => ?_, fun part hpart => ?_⟩
  · obtain ⟨d, hd, rfl⟩ := List.mem_map.1 hc
    have hascii := h.ascii d hd
    rw [toNat_toLower]
    split <;> omega
  · have hdots : ∀ c : Char, c.toLower = '.' ↔ c = '.' := fun c => by
      simpa only [beq_iff_eq] using Bool.eq_iff_iff.1 (toLower_eq_dot c)
    rw [splitDots_map hdots] at hpart
    obtain ⟨whole, hwhole, rfl⟩ := List.mem_map.1 hpart
    rw [List.length_map]
    exact h.parts whole hwhole

protected theorem canonicalChars (h : Plain xs) : Plain (canonicalChars xs) := by
  have hbody : Plain (dropEndWhile (· == '.') (trim xs)) :=
    h.of_isInfix ((dropEndWhile_isPrefix _ _).isInfix.trans (trim_isInfix xs))
  unfold DnsReconcile.canonicalChars
  split
  · exact nil.append_dot nil
  · exact hbody.map_toLower.append_dot nil

theorem ofString {s : String} (h : Plain s.toList) : Plain (Name.ofString s).text.toList := by
  have htext : (Name.ofString s).text.toList = DnsReconcile.canonicalChars s.toList :=
    String.toList_ofList
  rw [htext]
  exact h.canonicalChars

/-- Qualifying a plain spelling in a zone with a plain spelling gives a plain name. -/
theorem qualify {name zone : String} (hname : Plain name.toList) (hzone : Plain zone.toList) :
    Plain (Name.qualify name zone).text.toList := by
  rcases Name.qualify_cases name zone with h | h | h
  · exact h ▸ hzone.ofString
  · exact h ▸ hname.ofString
  · have hjoined := (hname.of_isInfix (trim_isInfix _)).append_dot hzone.ofString
    rw [h]
    apply ofString
    simpa using hjoined

theorem utf8ByteSize_le (h : Plain xs) {part : List Char} (hpart : part ∈ splitDots xs) :
    (String.ofList part).utf8ByteSize ≤ 63 := by
  have hascii : ∀ c ∈ part, c.toNat < 128 := fun c hc =>
    h.ascii c ((isInfix_of_mem_splitDots hpart).subset hc)
  rw [utf8ByteSize_of_ascii hascii]
  exact h.parts part hpart

end Plain

end DnsReconcile
