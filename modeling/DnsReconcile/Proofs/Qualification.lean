import DnsReconcile.Proofs.Hosts
import DnsReconcile.Proofs.NameParts

/-!
How a text is read as a name of a zone.

A name is its body and a dot behind it. The body of a qualified name is one of three: the
body of the zone, that of the text read on its own, or, if the text is relative to the zone,
the text in small letters, a dot and the body of the zone (`Name.body_qualify_of_isRelative`).
-/

namespace DnsReconcile

open Text

namespace Name

theorem ofString_eq_root_iff {s : String} : ofString s = root ↔ fqdn s = "." := by
  have hroot : fqdn "" = "." := by decide +kernel
  rw [root, ofString_eq_iff, hroot]

/-- What stands before the final dot of a name. -/
def body (n : Name) : List Char := n.text.toList.dropLast

theorem exists_body (n : Name) : IsNameBody n.body ∧ n.text.toList = n.body ++ ['.'] := by
  obtain ⟨cs, hcs, hchars⟩ := exists_nameBody n.text.toList
  have htext : n.text.toList = cs ++ ['.'] := by
    rw [← hchars]
    exact (congrArg String.toList n.canonical).symm.trans String.toList_ofList
  have hbody : n.body = cs := by rw [body, htext, List.dropLast_concat]
  exact ⟨hbody.symm ▸ hcs, hbody.symm ▸ htext⟩

theorem toList_text (n : Name) : n.text.toList = n.body ++ ['.'] := n.exists_body.2

theorem text_eq (n : Name) : n.text = String.ofList (n.body ++ ['.']) := by
  rw [← toList_text, String.ofList_toList]

/-- Names with the same body are the same name. -/
theorem ext_body {m n : Name} (h : m.body = n.body) : m = n :=
  ext_text (by rw [text_eq, h, ← text_eq])

theorem withoutFinalDot_text (n : Name) : withoutFinalDot n.text = String.ofList n.body := by
  rw [text_eq, withoutFinalDot_closed]

theorem body_ofString (s : String) :
    (ofString s).body = (dropEndWhile (· == '.') (trim s.toList)).map Char.toLower := by
  have htext : (ofString s).text.toList = canonicalChars s.toList := String.toList_ofList
  have hchars : canonicalChars s.toList =
      (dropEndWhile (· == '.') (trim s.toList)).map Char.toLower ++ ['.'] := by
    unfold canonicalChars
    split
    · rename_i hnil
      rw [hnil]
      rfl
    · rfl
  rw [body, htext, hchars, List.dropLast_concat]

theorem body_ne_nil {n : Name} (h : n ≠ root) : n.body ≠ [] :=
  fun hnil => h (ext_body hnil)

end Name

/-- Whether a text is read relative to the zone it stands in: it is neither the zone itself
nor closed by a dot. -/
structure IsRelative (name : String) : Prop where
  nonempty : trim name.toList ≠ []
  notApex : trim name.toList ≠ ['@']
  unclosed : (trim name.toList).getLast? ≠ some '.'

instance (name : String) : Decidable (IsRelative name) :=
  decidable_of_iff (trim name.toList ≠ [] ∧ trim name.toList ≠ ['@'] ∧
      (trim name.toList).getLast? ≠ some '.')
    ⟨fun h => ⟨h.1, h.2.1, h.2.2⟩, fun h => ⟨h.1, h.2, h.3⟩⟩

namespace Name

variable {name zone : String}

/-- A text closed by a dot is a name of its own. -/
theorem qualify_of_closed (h : (trim name.toList).getLast? = some '.') :
    qualify name zone = ofString name := by
  have hown : ¬ (trim name.toList = [] ∨ trim name.toList = ['@']) := by
    rintro (hown | hown) <;> simp [hown] at h
  unfold qualify
  dsimp only
  rw [if_neg hown, if_pos h]

/-- A text that is neither relative nor closed is the zone itself. -/
theorem qualify_of_open (h : ¬ IsRelative name) (hopen : (trim name.toList).getLast? ≠ some '.') :
    qualify name zone = ofString zone := by
  have hown : trim name.toList = [] ∨ trim name.toList = ['@'] := by
    by_contra hown
    rw [not_or] at hown
    exact h ⟨hown.1, hown.2, hopen⟩
  unfold qualify
  dsimp only
  rw [if_pos hown]

/-- What ends as a list does from which nothing is dropped keeps its end. -/
private theorem dropEndWhile_append_of_kept {α : Type} {p : α → Bool} {ys : List α}
    (hne : ys ≠ []) (h : dropEndWhile p ys = ys) (xs : List α) :
    dropEndWhile p (xs ++ ys) = xs ++ ys := by
  rcases dropEndWhile_eq_nil_or_concat p ys with hnil | ⟨front, last, hlast, hp⟩
  · exact absurd (h.symm.trans hnil) hne
  · rw [← h, hlast, ← List.append_assoc, dropEndWhile_concat_of_neg hp]

/-- Trimmed text with a dot behind it is trimmed. -/
private theorem trim_closed {own : List Char} (hne : own ≠ []) (h : trim own = own)
    (cs : List Char) : trim (own ++ cs ++ ['.']) = own ++ cs ++ ['.'] := by
  apply trim_eq_self
  · obtain ⟨c, rest, rfl⟩ := List.exists_cons_of_ne_nil hne
    have hstart := List.head?_dropWhile_not isBlank (c :: rest)
    rw [← h, dropWhile_isBlank_trim, h] at hstart
    simp_all
  · exact dropEndWhile_concat_of_neg rfl _

/-- A relative text is put in front of the zone. -/
theorem body_qualify_of_isRelative (h : IsRelative name) (hzone : ofString zone ≠ root) :
    (qualify name zone).body =
      (trim name.toList).map Char.toLower ++ '.' :: (ofString zone).body := by
  have hqualify : qualify name zone =
      ofString (String.ofList (trim name.toList ++ ['.']) ++ (ofString zone).text) := by
    unfold qualify
    dsimp only
    rw [if_neg (not_or.2 ⟨h.nonempty, h.notApex⟩), if_neg h.unclosed, if_neg hzone]
  have hchars : (String.ofList (trim name.toList ++ ['.']) ++ (ofString zone).text).toList =
      trim name.toList ++ '.' :: (ofString zone).body ++ ['.'] := by
    rw [String.toList_append, String.toList_ofList, toList_text]
    simp
  have hzoneBody := (ofString zone).exists_body.1
  have hdots : dropEndWhile (· == '.') (trim name.toList ++ '.' :: (ofString zone).body) =
      trim name.toList ++ '.' :: (ofString zone).body := by
    rw [← List.singleton_append, ← List.append_assoc]
    exact dropEndWhile_append_of_kept (body_ne_nil hzone) hzoneBody.dots _
  rw [hqualify, body_ofString, hchars, trim_closed h.nonempty (trim_trim _),
    dropEndWhile_concat_of_pos rfl, hdots, List.map_append, List.map_cons, hzoneBody.low]
  rfl

end Name

end DnsReconcile
