import Mathlib.Logic.Relation
import DnsReconcile.Proofs.Qualification
import DnsReconcile.Record

/-!
Spellings of a name.

A name may be spelled in other letter case, with white space around it, and with any number
of dots at its end. Two texts have the same canonical form exactly if a series of such
changes leads from one to the other (`fqdn_eq_fqdn_iff`), so records are equal exactly if
their parts are spellings of the same names, and a record that is built anew from its parts
is the same record (`Record.new_respelled`). White space between the name and its final dots
is no matter of spelling: `a .` is another name than `a`.
-/

namespace DnsReconcile

open Text

namespace Text

theorem dropEndWhile_append_of_pos {α : Type} {p : α → Bool} {ys : List α}
    (h : ∀ y ∈ ys, p y = true) (xs : List α) :
    dropEndWhile p (xs ++ ys) = dropEndWhile p xs := by
  rw [dropEndWhile, List.reverse_append, List.dropWhile_append_of_pos (by simpa using h),
    dropEndWhile]

/-- A text is what is left without its final dots, and these dots. -/
theorem exists_finalDots (cs : List Char) :
    ∃ n, cs = dropEndWhile (· == '.') cs ++ List.replicate n '.' := by
  induction cs using List.reverseRecOn with
  | nil => exact ⟨0, rfl⟩
  | append_singleton cs c ih =>
    by_cases hc : c = '.'
    · obtain ⟨n, hn⟩ := ih
      refine ⟨n + 1, ?_⟩
      rw [hc, dropEndWhile_concat_of_pos rfl, List.replicate_succ', ← List.append_assoc, ← hn]
    · exact ⟨0, by simp [dropEndWhile_concat_of_neg, hc]⟩

theorem trim_padded {front back : List Char} (hfront : ∀ c ∈ front, isBlank c = true)
    (hback : ∀ c ∈ back, isBlank c = true) (cs : List Char) :
    trim (front ++ cs ++ back) = trim cs := by
  rw [trim, List.append_assoc, List.dropWhile_append_of_pos hfront, List.dropWhile_append]
  split
  · rename_i hblank
    have hnone : (back ++ []).dropWhile isBlank = [] := List.dropWhile_append_of_pos hback
    rw [List.append_nil] at hnone
    rw [hnone, trim, List.isEmpty_iff.1 hblank]
  · rw [dropEndWhile_append_of_pos hback, trim]

theorem trim_map_toLower (cs : List Char) :
    trim (cs.map Char.toLower) = (trim cs).map Char.toLower := by
  have hcomp : isBlank ∘ Char.toLower = isBlank := funext isBlank_toLower
  rw [trim, List.dropWhile_map, hcomp, dropEndWhile_map Char.toLower isBlank_toLower, trim]

/-- Text that starts with no white space and ends in dots keeps its ends. -/
theorem trim_of_finalDots {cs : List Char} (h : cs.dropWhile isBlank = cs) (n : Nat) :
    trim (cs ++ List.replicate (n + 1) '.') = cs ++ List.replicate (n + 1) '.' := by
  apply trim_eq_self
  · rw [List.dropWhile_append, h]
    split
    · rename_i hnil
      rw [List.isEmpty_iff.1 hnil]
      rfl
    · rfl
  · rw [List.replicate_succ', ← List.append_assoc]
    exact dropEndWhile_concat_of_neg rfl _

/-- Dots behind trimmed text are not trimmed. -/
theorem trim_append_dots (cs : List Char) (n : Nat) :
    trim (trim cs ++ List.replicate n '.') = trim cs ++ List.replicate n '.' := by
  cases n with
  | zero => simpa using trim_trim cs
  | succ n => exact trim_of_finalDots (dropWhile_isBlank_trim cs) n

end Text

/-- A change in the spelling of a name: letters of ASCII in other case, white space around
the text, or dots behind the trimmed text. -/
inductive Respelling : String → String → Prop
  | recased {s t : String} (h : sameIgnoringCase s t = true) : Respelling s t
  | padded (s : String) (front back : List Char) (hfront : ∀ c ∈ front, isBlank c = true)
      (hback : ∀ c ∈ back, isBlank c = true) :
      Respelling s (String.ofList (front ++ s.toList ++ back))
  | closed (s : String) (dots : Nat) :
      Respelling s (trimmed s ++ String.ofList (List.replicate dots '.'))

/-- Whether a series of changes, each made or taken back, leads from one text to the other. -/
def SameSpelling : String → String → Prop := Relation.EqvGen Respelling

namespace Name

/-- The body of a name is taken from its text in small letters. -/
theorem body_ofString_of_lower (s : String) :
    (ofString s).body = dropEndWhile (· == '.') (trim (lower s).toList) := by
  rw [body_ofString, lower, String.toList_ofList, trim_map_toLower,
    dropEndWhile_map Char.toLower toLower_eq_dot]

/-- The text of a name has no white space at its ends. -/
theorem trim_text (n : Name) : trim n.text.toList = n.text.toList := by
  rw [toList_text]
  exact trim_of_finalDots n.exists_body.1.start 0

end Name

/-- No change in the spelling changes the name. -/
theorem Respelling.fqdn_eq {s t : String} (h : Respelling s t) : fqdn s = fqdn t := by
  rw [← Name.ofString_eq_iff]
  apply Name.ext_body
  cases h with
  | recased h => rw [Name.body_ofString_of_lower, Name.body_ofString_of_lower, eq_of_beq h]
  | padded front back hfront hback =>
    rw [Name.body_ofString, Name.body_ofString, String.toList_ofList, trim_padded hfront hback]
  | closed dots =>
    rw [Name.body_ofString, Name.body_ofString, String.toList_append, trimmed,
      String.toList_ofList, String.toList_ofList, trim_append_dots, dropEndWhile_append_of_pos]
    simp

namespace SameSpelling

theorem of_respelling {s t : String} (h : Respelling s t) : SameSpelling s t := .rel _ _ h

theorem symm {s t : String} (h : SameSpelling s t) : SameSpelling t s :=
  Relation.EqvGen.symm _ _ h

theorem trans {s t u : String} (h : SameSpelling s t) (h' : SameSpelling t u) :
    SameSpelling s u :=
  Relation.EqvGen.trans _ _ _ h h'

end SameSpelling

/-- A text is a spelling of its canonical form: the text with one more dot, and the canonical
form with as many as the text ends in, differ in case alone. -/
theorem sameSpelling_fqdn (s : String) : SameSpelling s (fqdn s) := by
  obtain ⟨n, hn⟩ := exists_finalDots (trim s.toList)
  have hchars : (fqdn s).toList =
      (dropEndWhile (· == '.') (trim s.toList)).map Char.toLower ++ ['.'] := by
    rw [← Name.body_ofString]
    exact (Name.ofString s).toList_text
  have htrim : trim (fqdn s).toList = (fqdn s).toList := (Name.ofString s).trim_text
  have hcase : sameIgnoringCase (trimmed s ++ String.ofList (List.replicate 1 '.'))
      (trimmed (fqdn s) ++ String.ofList (List.replicate n '.')) = true := by
    rw [sameIgnoringCase, beq_iff_eq, lower, lower, String.ofList_inj, trimmed, trimmed, htrim]
    simp only [String.toList_append, String.toList_ofList, hchars]
    generalize dropEndWhile (· == '.') (trim s.toList) = body at hn
    have hdots : List.replicate n '.' ++ List.replicate 1 '.' = ['.'] ++ List.replicate n '.' := by
      rw [List.replicate_append_replicate]
      rfl
    rw [hn, List.append_assoc, hdots, List.append_assoc]
    simp only [List.map_append, map_toLower_map_toLower]
  exact (SameSpelling.of_respelling (.closed s 1)).trans
    ((SameSpelling.of_respelling (.recased hcase)).trans
      (SameSpelling.of_respelling (.closed _ n)).symm)

/-- Texts have the same canonical form exactly if they are spellings of the same name. -/
theorem fqdn_eq_fqdn_iff {s t : String} : fqdn s = fqdn t ↔ SameSpelling s t := by
  constructor
  · intro h
    exact (sameSpelling_fqdn s).trans (h ▸ (sameSpelling_fqdn t).symm)
  · intro h
    induction h with
    | rel _ _ hchange => exact hchange.fqdn_eq
    | refl _ => rfl
    | symm _ _ _ ih => exact ih.symm
    | trans _ _ _ _ _ ih ih' => exact ih.trans ih'

instance (s t : String) : Decidable (SameSpelling s t) := decidable_of_iff _ fqdn_eq_fqdn_iff

/-- White space in front of the final dots belongs to the name. -/
example : ¬ SameSpelling "host.example.org ." "host.example.org." := by decide +kernel

namespace Name

/-- The text of a qualified name as it is put together: a relative text in small letters, a
dot and the zone are joined, and what comes out is not brought into canonical form again. -/
def qualifiedText (name zone : String) : String :=
  let own := trim name.toList
  if own = [] ∨ own = ['@'] then fqdn zone
  else if own.getLast? = some '.' then fqdn name
  else if fqdn zone = "." then fqdn name
  else lower (trimmed name) ++ "." ++ fqdn zone

/-- A relative text, a dot and a zone are joined to a name. -/
theorem text_qualify_of_isRelative {name zone : String} (h : IsRelative name)
    (hzone : ofString zone ≠ root) :
    (qualify name zone).text = lower (trimmed name) ++ "." ++ fqdn zone := by
  have hchars : (fqdn zone).toList = (ofString zone).body ++ ['.'] := (ofString zone).toList_text
  rw [← String.toList_inj, toList_text, body_qualify_of_isRelative h hzone]
  simp [lower, trimmed, hchars]

/-- A name is put together in canonical form. -/
theorem text_qualify (name zone : String) :
    (qualify name zone).text = qualifiedText name zone := by
  unfold qualifiedText
  dsimp only
  split_ifs with hown hclosed hzone
  · rw [qualify, if_pos hown]
    rfl
  · rw [qualify_of_closed hclosed]
    rfl
  · rw [qualify, if_neg hown, if_neg hclosed, if_pos (ofString_eq_root_iff.2 hzone)]
    rfl
  · rw [not_or] at hown
    exact text_qualify_of_isRelative ⟨hown.1, hown.2, hclosed⟩ (mt ofString_eq_root_iff.1 hzone)

/-- A name in canonical form is the same name in every zone. -/
theorem qualify_text (n : Name) (zone : String) : qualify n.text zone = n := by
  have hclosed : (trim n.text.toList).getLast? = some '.' := by
    rw [trim_text, toList_text, List.getLast?_concat]
  rw [qualify_of_closed hclosed, ofString_text]

end Name

theorem RecordData.canonical_mapHost_eq_iff {f : String → String} {data : RecordData} :
    data.canonical = (data.mapHost f).canonical ↔
      ∀ host ∈ data.host?, fqdn host = fqdn (f host) := by
  cases data <;> simp [mapHost, canonical, host?]

namespace Record

theorem new_eq_new_iff {zone zone' name name' : String} {ttl : UInt32}
    {data data' : RecordData} :
    Record.new zone name ttl data = Record.new zone' name' ttl data' ↔
      fqdn zone = fqdn zone' ∧ fqdn name = fqdn name' ∧ data.canonical = data'.canonical := by
  simp [Record.new, Name.ofString_eq_iff]

/-- A record that is built anew from its own parts is the same record, under the label that
its name spells. Records are the same exactly if their zones, owner names and host names are
spellings of the same names. A name that is put together from a text and a zone is in
canonical form, and is the same name when it is read in the zone again. -/
theorem new_respelled (zone name : String) (ttl : UInt32) (data : RecordData) :
    let r := Record.new zone name ttl data
    (Record.new r.zone.text r.name.text r.ttl r.data = r ∧ r.label = .new r.name.text r.type) ∧
      (∀ (zone' name' : String) (respell : String → String),
        r = Record.new zone' name' ttl (data.mapHost respell) ↔
          SameSpelling zone zone' ∧ SameSpelling name name' ∧
            ∀ host ∈ data.host?, SameSpelling host (respell host)) ∧
      (Name.qualify name zone).text = Name.qualifiedText name zone ∧
      fqdn (Name.qualifiedText name zone) = Name.qualifiedText name zone ∧
      (Name.qualify (Name.qualifiedText name zone) zone).text = Name.qualifiedText name zone := by
  intro r
  refine ⟨⟨?_, ?_⟩, fun zone' name' respell => ?_, Name.text_qualify name zone, ?_, ?_⟩
  · exact new_eq_new_iff.2 ⟨fqdn_fqdn zone, fqdn_fqdn name, data.canonical_canonical⟩
  · rw [Label.new, Name.ofString_text]
    rfl
  · rw [new_eq_new_iff, RecordData.canonical_mapHost_eq_iff]
    simp only [fqdn_eq_fqdn_iff]
  · rw [← Name.text_qualify]
    exact (Name.qualify name zone).canonical
  · rw [← Name.text_qualify, Name.qualify_text]

/-- A zone in other letter case, an owner with white space around it and an exchange closed
by dots; a dot behind white space makes another exchange. -/
theorem new_respelled_exchange :
    let r := Record.new "example.com" "mail.example.com" 300 (.mx 10 "mx.example.org")
    (SameSpelling "example.com" "Example.COM" ∧
        SameSpelling "mail.example.com" "\tmail.example.com " ∧
        SameSpelling "mx.example.org" "mx.example.org...") ∧
      r = Record.new "Example.COM" "\tmail.example.com " 300 (.mx 10 "mx.example.org...") ∧
      r ≠ Record.new "Example.COM" "\tmail.example.com " 300 (.mx 10 "mx.example.org .") ∧
      (Name.qualify (Name.qualifiedText " WWW" "Example.COM") "Example.COM").text =
        "www.example.com." := by
  intro r
  have hzone : SameSpelling "example.com" "Example.COM" :=
    .of_respelling (.recased (by decide +kernel))
  have hname : SameSpelling "mail.example.com" "\tmail.example.com " :=
    .of_respelling (.padded "mail.example.com" ['\t'] [' '] (List.forall_mem_singleton.2 rfl)
      (List.forall_mem_singleton.2 rfl))
  have hhost : SameSpelling "mx.example.org" "mx.example.org..." :=
    .of_respelling (.closed "mx.example.org" 3)
  have hrecord := (new_respelled "example.com" "mail.example.com" 300
    (.mx 10 "mx.example.org")).2.1 "Example.COM" "\tmail.example.com "
  have hjoined := (new_respelled "Example.COM" " WWW" 300 (.txt [])).2.2.2.2
  refine ⟨⟨hzone, hname, hhost⟩, ?_, fun hsame => ?_, ?_⟩
  · exact (hrecord (fun _ => "mx.example.org...")).2
      ⟨hzone, hname, fun host h => Option.mem_some_iff.1 h ▸ hhost⟩
  · have hspaced := ((hrecord (fun _ => "mx.example.org .")).1 hsame).2.2 "mx.example.org" rfl
    exact absurd hspaced (by decide +kernel)
  · exact hjoined.trans (by decide +kernel)

end Record

end DnsReconcile
