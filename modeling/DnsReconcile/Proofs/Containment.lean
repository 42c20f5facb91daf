import DnsReconcile.Proofs.AcceptedConfig
import DnsReconcile.Proofs.Qualification

/-!
Which names lie in a zone.

The test looks at texts: a name lies in a zone if it is the zone, or if its text ends in a dot
and the text of the zone. What it finds out is a matter of labels: the labels of the zone are
the last ones of the name (`Name.isWithin_iff_labels`), where the root has no labels at all.
So zones lie in one another as lists of labels end in one another, and a text that is read
relative to a zone puts its labels in front of those of the zone (`Name.labels_qualify`).
-/

namespace DnsReconcile

open Text

theorem splitDots_ne_nil (cs : List Char) : splitDots cs ≠ [] :=
  splitDots_eq_splitOn cs ▸ List.splitOn_ne_nil '.' cs

/-- A text is its parts with a dot between each two. -/
theorem intercalate_splitDots (cs : List Char) : ['.'].intercalate (splitDots cs) = cs := by
  rw [splitDots_eq_splitOn, List.intercalate_splitOn]

theorem splitDots_injective : Function.Injective splitDots :=
  Function.LeftInverse.injective intercalate_splitDots

/-- The last parts of a text are those of the whole text, or of what stands behind a dot. -/
theorem splitDots_isSuffix_iff {xs ys : List Char} :
    splitDots ys <:+ splitDots xs ↔ ys = xs ∨ '.' :: ys <:+ xs := by
  constructor
  · intro h
    induction xs with
    | nil =>
      rcases List.suffix_cons_iff.1 h with hwhole | hnone
      · exact .inl (splitDots_injective hwhole)
      · exact absurd (List.suffix_nil.1 hnone) (splitDots_ne_nil ys)
    | cons c rest ih =>
      by_cases hc : c = '.'
      · subst hc
        rw [splitDots, if_pos rfl] at h
        rcases List.suffix_cons_iff.1 h with hwhole | hrest
        · exact .inl (splitDots_injective (by rw [hwhole, splitDots, if_pos rfl]))
        · rcases ih hrest with rfl | hdot
          · exact .inr List.suffix_rfl
          · exact .inr (hdot.trans (List.suffix_cons _ _))
      · obtain ⟨part, parts, hparts, hcons⟩ := exists_splitDots_cons hc rest
        rw [hcons] at h
        rcases List.suffix_cons_iff.1 h with hwhole | hlater
        · exact .inl (splitDots_injective (hwhole.trans hcons.symm))
        · rcases ih (hparts ▸ hlater.trans (List.suffix_cons _ _)) with rfl | hdot
          · -- the first part of the rest has grown by `c`, so these are not all its parts
            have hlength := hlater.length_le
            rw [hparts, List.length_cons] at hlength
            omega
          · exact .inr (hdot.trans (List.suffix_cons _ _))
  · rintro (rfl | ⟨front, rfl⟩)
    · exact List.suffix_rfl
    · rw [splitDots_append_dot]
      exact List.suffix_append _ _

namespace Name

variable {name zone n : Name}

/-- The labels of a name. The root has none. -/
def labels (n : Name) : List (List Char) := if n = root then [] else splitDots n.body

@[simp] theorem labels_root : root.labels = [] := if_pos rfl

theorem labels_of_ne_root (h : n ≠ root) : n.labels = splitDots n.body := if_neg h

theorem labels_of_body_ne_nil (h : n.body ≠ []) : n.labels = splitDots n.body :=
  labels_of_ne_root fun hroot => h (hroot ▸ rfl)

@[simp] theorem labels_eq_nil_iff : n.labels = [] ↔ n = root := by
  refine ⟨fun hnil => ?_, fun hroot => hroot ▸ labels_root⟩
  by_contra hroot
  exact splitDots_ne_nil n.body ((labels_of_ne_root hroot).symm.trans hnil)

/-- Names with the same labels are the same name. -/
theorem labels_injective : Function.Injective labels := by
  intro m n h
  by_cases hm : m = root
  · rw [hm, labels_root, eq_comm, labels_eq_nil_iff] at h
    rw [hm, h]
  · have hn : n ≠ root := by rwa [Ne, ← labels_eq_nil_iff, ← h, labels_eq_nil_iff]
    rw [labels_of_ne_root hm, labels_of_ne_root hn] at h
    exact ext_body (splitDots_injective h)

/-- The labels of a zone are the last ones of a name exactly if the zone is the root, or the
parts of its text without the final dot are the last ones of the text of the name. -/
theorem labels_isSuffix_iff :
    zone.labels <:+ name.labels ↔ zone = root ∨ splitDots zone.body <:+ splitDots name.body := by
  by_cases hzone : zone = root
  · simp [hzone]
  by_cases hname : name = root
  · have hbody : root.body = [] := rfl
    simp [hname, hzone, splitDots_isSuffix_iff, hbody, body_ne_nil hzone]
  · simp [labels_of_ne_root, hzone, hname]

theorem isWithin_iff_labels : name.isWithin zone = true ↔ zone.labels <:+ name.labels := by
  rw [labels_isSuffix_iff, splitDots_isSuffix_iff]
  by_cases hzone : zone = root
  · simp [isWithin, hzone]
  · have hsame : name = zone ↔ zone.body = name.body :=
      ⟨fun h => h ▸ rfl, fun h => ext_body h.symm⟩
    have hbelow : '.' :: zone.text.toList <:+ name.text.toList ↔
        '.' :: zone.body <:+ name.body := by
      rw [toList_text, toList_text, ← List.cons_append]
      exact List.suffix_append_self_iff
    rw [isWithin_eq_true_iff hzone, hsame, hbelow, or_iff_right hzone]

theorem isWithin_refl (n : Name) : n.isWithin n = true :=
  isWithin_iff_labels.2 List.suffix_rfl

theorem isWithin_trans {a b c : Name} (h : a.isWithin b = true) (h' : b.isWithin c = true) :
    a.isWithin c = true :=
  isWithin_iff_labels.2 ((isWithin_iff_labels.1 h').trans (isWithin_iff_labels.1 h))

theorem isWithin_antisymm {a b : Name} (h : a.isWithin b = true) (h' : b.isWithin a = true) :
    a = b := by
  have hsuffix := isWithin_iff_labels.1 h'
  exact labels_injective (hsuffix.eq_of_length_le (isWithin_iff_labels.1 h).length_le)

/-- A text that ends in no dot has no final dots to lose. -/
private theorem dropEndWhile_of_unclosed {cs : List Char} (h : cs.getLast? ≠ some '.') :
    dropEndWhile (· == '.') cs = cs := by
  rcases List.eq_nil_or_concat' cs with rfl | ⟨front, last, rfl⟩
  · rfl
  · rw [List.getLast?_concat] at h
    exact dropEndWhile_concat_of_neg (by simpa using h) front

/-- A relative text puts its parts in front of the labels of the zone. -/
theorem labels_qualify {name zone : String} (h : IsRelative name) :
    (qualify name zone).labels =
      splitDots ((trim name.toList).map Char.toLower) ++ (ofString zone).labels := by
  by_cases hzone : ofString zone = root
  · have hopen : dropEndWhile (· == '.') (trim name.toList) = trim name.toList :=
      dropEndWhile_of_unclosed h.unclosed
    have hbody : (qualify name zone).body = (trim name.toList).map Char.toLower := by
      rw [qualify, if_neg (not_or.2 ⟨h.nonempty, h.notApex⟩), if_neg h.unclosed, if_pos hzone,
        body_ofString, hopen]
    rw [labels_of_body_ne_nil (by simp [hbody, h.nonempty]), hbody, hzone, labels_root,
      List.append_nil]
  · have hbody := body_qualify_of_isRelative h hzone
    rw [labels_of_body_ne_nil (by simp [hbody]), hbody, splitDots_append_dot,
      labels_of_ne_root hzone]

/-- A text that is not closed by a dot is read as a name of the zone. -/
theorem isWithin_qualify {name : String} (h : (trim name.toList).getLast? ≠ some '.')
    (zone : String) : (qualify name zone).isWithin (ofString zone) = true := by
  by_cases hrelative : IsRelative name
  · rw [isWithin_iff_labels, labels_qualify hrelative]
    exact List.suffix_append _ _
  · rw [qualify_of_open hrelative h]
    exact isWithin_refl _

end Name

/-- Whether a text names what lies in the zone that another text names. -/
def LiesIn (name zone : String) : Prop := (Name.ofString name).isWithin (.ofString zone) = true

instance (name zone : String) : Decidable (LiesIn name zone) :=
  inferInstanceAs (Decidable (_ = true))

theorem toList_withoutFinalDot_fqdn (s : String) :
    (withoutFinalDot (fqdn s)).toList = (Name.ofString s).body :=
  (congrArg String.toList (Name.ofString s).withoutFinalDot_text).trans String.toList_ofList

/-- A name lies in a zone exactly if the zone is the root, or the parts of its canonical form
are the last ones of that of the name. So each name lies in itself, names lie in the zones of
the zones they lie in, and only spellings of one name lie in each other. What is read
relative to a zone, or as the zone itself, lies in it. -/
theorem liesIn_labelwise :
    (∀ name zone : String, LiesIn name zone ↔
        fqdn zone = "." ∨ splitDots (withoutFinalDot (fqdn zone)).toList <:+
          splitDots (withoutFinalDot (fqdn name)).toList) ∧
      (∀ name : String, LiesIn name name) ∧
      (∀ a b c : String, LiesIn a b → LiesIn b c → LiesIn a c) ∧
      (∀ a b : String, LiesIn a b → LiesIn b a → fqdn a = fqdn b) ∧
      ∀ name zone : String, (trim name.toList).getLast? ≠ some '.' →
        LiesIn (Name.qualify name zone).text zone := by
  refine ⟨fun name zone => ?_, fun name => Name.isWithin_refl _,
    fun a b c => Name.isWithin_trans, fun a b hab hba => ?_, fun name zone hopen => ?_⟩
  · rw [LiesIn, Name.isWithin_iff_labels, Name.labels_isSuffix_iff, Name.ofString_eq_root_iff,
      toList_withoutFinalDot_fqdn, toList_withoutFinalDot_fqdn]
  · exact Name.ofString_eq_iff.1 (Name.isWithin_antisymm hab hba)
  · rw [LiesIn, Name.ofString_text]
    exact Name.isWithin_qualify hopen zone

/-- A name two zones deep, two spellings of one zone, an open text and the zone itself; a name
may end in the letters of a zone but not in its labels. -/
theorem liesIn_labelwise_nested :
    (LiesIn "www.EU.example.com" "eu.example.com" ∧ LiesIn "eu.example.com" "example.com." ∧
        LiesIn "www.EU.example.com" "example.com.") ∧
      (LiesIn "Example.COM.. " "example.com" ∧ LiesIn "example.com" "Example.COM.. " ∧
        fqdn "Example.COM.. " = fqdn "example.com") ∧
      LiesIn (Name.qualify " www" "example.com").text "example.com" ∧
      LiesIn (Name.qualify "@" ".").text "." ∧ ¬ LiesIn "badexample.com" "example.com" := by
  obtain ⟨hlabels, -, htrans, hantisymm, hqualified⟩ := liesIn_labelwise
  have hinner : LiesIn "www.EU.example.com" "eu.example.com" := by decide +kernel
  have houter : LiesIn "eu.example.com" "example.com." := by decide +kernel
  have hspelled : LiesIn "Example.COM.. " "example.com" := by decide +kernel
  have hplain : LiesIn "example.com" "Example.COM.. " := by decide +kernel
  refine ⟨⟨hinner, houter, htrans _ _ _ hinner houter⟩,
    ⟨hspelled, hplain, hantisymm _ _ hspelled hplain⟩,
    hqualified _ _ (by decide +kernel), hqualified _ _ (by decide +kernel), fun hlies => ?_⟩
  exact absurd ((hlabels _ _).1 hlies) (by decide +kernel)

end DnsReconcile
