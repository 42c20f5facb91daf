import Mathlib.Algebra.Order.BigOperators.Group.List
import DnsReconcile.Proofs.AcceptedConfig
import DnsReconcile.Proofs.Qualification

/-!
What becomes of the desired records once they are written.

A host name is written without its final dot, and white space that the dot hides is lost on
the way back. The check of a configuration does not look at host names, so an accepted domain
may hold such a name: in an absolute spelling, or through a zone that is spelled so
(`blankBeforeDot_qualify`). The records of a label come back from a provider as they are
desired exactly if none of their hosts is of that kind, and if one is, each later run plans
the label again (`Domain.readBack_iff`).
-/

namespace DnsReconcile

open Text

def endsBlank (cs : List Char) : Bool := cs.getLast?.any isBlank

/-- Whether a host name that is spelled so in a zone ends in white space but for its final
dot: before the dots that close it, or, if it is not absolute, where the zone ends. -/
def hidesBlank (zone host : String) : Bool :=
  let own := trim host.toList
  endsBlank (dropEndWhile (· == '.') (if own.getLast? = some '.' then own else trim zone.toList))

theorem endsBlank_eq_false_iff {cs : List Char} :
    endsBlank cs = false ↔ ∀ c ∈ cs.getLast?, isBlank c = false := by
  rw [endsBlank, Option.any_eq_false]
  exact ⟨fun h c hc => by simpa using h c hc, fun h c hc => by simpa using h c hc⟩

private theorem endsBlank_map_toLower (cs : List Char) :
    endsBlank (cs.map Char.toLower) = endsBlank cs := by
  rw [endsBlank, endsBlank, List.getLast?_map]
  cases cs.getLast? with
  | none => rfl
  | some c => exact isBlank_toLower c

theorem Name.blankBeforeDot_text (n : Name) : blankBeforeDot n.text = endsBlank n.body := by
  rw [Bool.eq_iff_iff, ← not_iff_not, Bool.not_eq_true, Bool.not_eq_true, n.text_eq,
    blankBeforeDot_closed, endsBlank_eq_false_iff]

private theorem endsBlank_body_ofString (s : String) :
    endsBlank (Name.ofString s).body = endsBlank (dropEndWhile (· == '.') (trim s.toList)) := by
  rw [Name.body_ofString, endsBlank_map_toLower]

private theorem endsBlank_append_dot {xs ys : List Char} (h : ys ≠ []) :
    endsBlank (xs ++ '.' :: ys) = endsBlank ys := by
  obtain ⟨front, last, rfl⟩ := (List.eq_nil_or_concat' ys).resolve_left h
  rw [endsBlank, endsBlank, ← List.cons_append, ← List.append_assoc, List.getLast?_concat,
    List.getLast?_concat]

/-- A host name in a zone hides white space before its final dot exactly if its spelling,
or that of the zone it is put in front of, does. -/
theorem blankBeforeDot_qualify {zone : String} (hzone : Name.ofString zone ≠ .root)
    (host : String) : blankBeforeDot (Name.qualify host zone).text = hidesBlank zone host := by
  rw [Name.blankBeforeDot_text, hidesBlank]
  by_cases hclosed : (trim host.toList).getLast? = some '.'
  · rw [Name.qualify_of_closed hclosed, if_pos hclosed, endsBlank_body_ofString]
  · rw [if_neg hclosed, ← endsBlank_body_ofString]
    by_cases hrelative : IsRelative host
    · rw [Name.body_qualify_of_isRelative hrelative hzone,
        endsBlank_append_dot (Name.body_ne_nil hzone)]
    · rw [Name.qualify_of_open hrelative hclosed]

namespace RecordData

theorem host?_mapHost (f : String → String) (d : RecordData) :
    (d.mapHost f).host? = d.host?.map f := by
  cases d <;> rfl

theorem host?_canonical (d : RecordData) : d.canonical.host? = d.host?.map fqdn := by
  cases d <;> rfl

end RecordData

/-- The hosts of a desired record hide no white space exactly if no spelling does. -/
theorem DesiredRecord.noBlankBeforeDot_iff {zone : String} (hzone : Name.ofString zone ≠ .root)
    (r : DesiredRecord) : (r.toRecord zone).data.NoBlankBeforeDot ↔
      ∀ host ∈ r.data.host?, hidesBlank zone host = false := by
  have hhost : (r.toRecord zone).data.host? =
      r.data.host?.map (fun host => (Name.qualify host zone).text) := by
    have hqualified : ∀ host, fqdn (Name.qualify host zone).text = (Name.qualify host zone).text :=
      fun host => (Name.qualify host zone).canonical
    rw [toRecord, Record.new, RecordData.host?_canonical, RecordData.host?_mapHost, Option.map_map]
    exact Option.map_congr (fun host _ => hqualified host)
  unfold RecordData.NoBlankBeforeDot
  rw [hhost]
  simp only [Option.mem_map, forall_exists_index, and_imp, forall_apply_eq_imp_iff₂,
    blankBeforeDot_qualify hzone]

namespace RecordData

def hostLength (d : RecordData) : Nat := (d.host?.map (·.toList.length)).getD 0

end RecordData

private theorem length_fqdn_withoutFinalDot_lt {name : String} (h : fqdn name = name)
    (hblank : blankBeforeDot name = true) :
    (fqdn (withoutFinalDot name)).toList.length < name.toList.length := by
  have hname := Name.exists_body ⟨name, h⟩
  have hends : endsBlank (Name.body ⟨name, h⟩) = true :=
    (Name.blankBeforeDot_text ⟨name, h⟩).symm.trans hblank
  obtain ⟨c, hc, hc'⟩ := (Option.any_eq_true _ _).1 hends
  have hshort := length_canonicalChars_of_blank hname.1 hc hc'
  rw [Name.withoutFinalDot_text ⟨name, h⟩, fqdn, String.toList_ofList, String.toList_ofList]
  have hlength := congrArg List.length hname.2
  rw [List.length_append, List.length_singleton] at hlength
  change name.toList.length = _ at hlength
  omega

/-- A host name that hides white space comes back as a shorter one. -/
private theorem hostLength_spelled_lt {d : RecordData} (h : d.canonical = d)
    (hblank : ¬ d.NoBlankBeforeDot) :
    (Content.spelled d).canonical.hostLength < d.hostLength := by
  have hshorter : ∀ host ∈ d.host?, blankBeforeDot host = true →
      (fqdn (withoutFinalDot host)).toList.length < host.toList.length :=
    fun host hhost => length_fqdn_withoutFinalDot_lt (d.fqdn_of_mem_host? h hhost)
  cases d with
  | a _ | aaaa _ | caa _ _ _ | txt _ => exact absurd (by rintro _ ⟨⟩) hblank
  | cname target | ns target | mx _ target =>
    have htarget : blankBeforeDot target = true := by
      simpa [RecordData.NoBlankBeforeDot, RecordData.host?] using hblank
    simpa [Content.spelled, RecordData.canonical, RecordData.mapHost, RecordData.hostLength,
      RecordData.host?] using hshorter target rfl htarget
  | srv _ _ _ target =>
    have htarget : blankBeforeDot target = true := by
      simpa [RecordData.NoBlankBeforeDot, RecordData.host?] using hblank
    have hroot : target ≠ "." := fun hroot => by
      rw [hroot] at htarget
      cases htarget
    simpa [Content.spelled, RecordData.canonical, RecordData.mapHost, RecordData.hostLength,
      RecordData.host?, hroot] using hshorter target rfl htarget

/-- A map that makes each member it moves smaller leaves all members alone, if it reaches
them all. -/
private theorem fixed_of_covered {α : Type} (size : α → Nat) {f : α → α} {xs : List α}
    (hsmaller : ∀ x ∈ xs, f x ≠ x → size (f x) < size x) (hcovered : ∀ x ∈ xs, ∃ y ∈ xs, f y = x) :
    ∀ x ∈ xs, f x = x := by
  by_contra hmoved
  simp only [not_forall] at hmoved
  obtain ⟨x, hx, hmoved⟩ := hmoved
  -- what is moved onto a moved member is moved itself and greater, so there is no greatest one
  have hgreater : ∀ n, ∃ y ∈ xs, f y ≠ y ∧ n ≤ size y := by
    intro n
    induction n with
    | zero => exact ⟨x, hx, hmoved, Nat.zero_le _⟩
    | succ n ih =>
      obtain ⟨y, hy, hymoved, hn⟩ := ih
      obtain ⟨z, hz, rfl⟩ := hcovered y hy
      have hzmoved : f z ≠ z := fun hfixed => hymoved (by rw [hfixed, hfixed])
      exact ⟨z, hz, hzmoved, Nat.succ_le_of_lt (hn.trans_lt (hsmaller z hz hzmoved))⟩
  obtain ⟨y, hy, -, hlarge⟩ := hgreater ((xs.map size).sum + 1)
  have hsum : size y ≤ (xs.map size).sum := List.le_sum_of_mem (List.mem_map_of_mem hy)
  omega

/-- A label is planned exactly if its desired and its observed records differ. -/
theorem Correction.exists_label_iff {zone : String} {desired observed : List Record}
    {capabilities : Capabilities} {cs : List Correction} {l : Label}
    (h : compute zone desired observed capabilities = .ok cs) :
    (∃ c ∈ cs, c.label = l) ↔ recordsAt l desired ≠ recordsAt l observed := by
  have hkind : (∃ c ∈ cs, c.label = l) ↔
      ∃ k : ChangeKind, k.Applies (recordsAt l desired) (recordsAt l observed) := by
    constructor
    · rintro ⟨c, hc, rfl⟩
      exact ⟨c.kind, (mem_targets_compute h _ _).1 (mem_targets.2 ⟨c, hc, rfl, rfl⟩)⟩
    · rintro ⟨k, hk⟩
      obtain ⟨c, hc, -, hlabel⟩ := mem_targets.1 ((mem_targets_compute h k l).2 hk)
      exact ⟨c, hc, hlabel⟩
  rw [hkind]
  constructor
  · rintro ⟨k, hk⟩ heq
    cases k <;> simp_all [ChangeKind.Applies]
  · intro hne
    by_cases hd : recordsAt l desired = []
    · exact ⟨.removed, hd, fun ho => hne (hd.trans ho.symm)⟩
    · by_cases ho : recordsAt l observed = []
      · exact ⟨.added, hd, ho⟩
      · exact ⟨.modified, hd, ho, hne⟩

namespace NativeSet

variable {zone : String} {capabilities : Capabilities} {l : Label} {rs : List Record}
  {set : NativeSet}

/-- The records of a set that was made of records are those records, each as it is reread. -/
theorem toRecords_eq_map (h : ofRecords capabilities rs = .ok (some set))
    (hlabel : ∀ r ∈ rs, r.label = l) :
    set.toRecords zone l.name.text l.type = .ok (rs.map (reread zone l.name.text set.ttl)) := by
  obtain ⟨-, hrecords, _, hwritable⟩ := ofRecords_eq_ok_some_iff.1 h
  rw [toRecords, hrecords]
  apply readMembers_member
  exact fun r hr => ⟨congrArg Label.type (hlabel r hr),
    Capabilities.not_emptyText_of_check (hwritable r hr).check⟩

/-- A record is reread as itself, or a host name in it gets shorter. -/
theorem reread_of_mem (h : ofRecords capabilities rs = .ok (some set))
    (hlabel : ∀ r ∈ rs, r.label = l) (hzone : ∀ r ∈ rs, r.zone = .ofString zone) {r : Record}
    (hr : r ∈ rs) :
    (reread zone l.name.text set.ttl r = r ↔ r.data.NoBlankBeforeDot) ∧
      (reread zone l.name.text set.ttl r ≠ r →
        (reread zone l.name.text set.ttl r).data.hostLength < r.data.hostLength) := by
  obtain ⟨-, -, _, hwritable⟩ := ofRecords_eq_ok_some_iff.1 h
  rw [← hlabel r hr, ← (hwritable r hr).ttl]
  have hsame := reread_eq_iff (hzone r hr)
  refine ⟨hsame, fun hne => ?_⟩
  exact hostLength_spelled_lt r.canonical (mt hsame.2 hne)

end NativeSet

namespace Domain

variable {d : Domain} {l : Label} {set : NativeSet}

/-- The desired records of a label that a provider with the default capabilities takes can
always be read back. What is read is the desired group exactly if no host of the label hides
white space before its final dot. And wherever it is observed, the label is planned again
exactly if it is not the desired group. -/
theorem readBack_iff (h : d.validate = .ok ())
    (hset : NativeSet.ofRecords {} ((Snapshot.group d.desiredRecords).members l) =
      .ok (some set)) :
    ∃ back, set.toRecords d.name l.name.text l.type = .ok back ∧
      (back = (Snapshot.group d.desiredRecords).members l ↔
        ∀ r ∈ d.records, (r.toRecord d.name).label = l →
          ∀ host ∈ r.data.host?, hidesBlank d.name host = false) ∧
      ∀ observed capabilities cs, recordsAt l observed = recordsAt l back →
        Correction.compute d.name d.desiredRecords observed capabilities = .ok cs →
          ((∃ c ∈ cs, c.label = l) ↔ back ≠ (Snapshot.group d.desiredRecords).members l) := by
  rw [Snapshot.members_group] at hset ⊢
  set group := recordsAt l d.desiredRecords with hgroup
  set reread := NativeSet.reread d.name l.name.text set.ttl
  have hlabel : ∀ r ∈ group, r.label = l := fun r hr => (mem_recordsAt.1 hr).2
  have hzone : ∀ r ∈ group, r.zone = .ofString d.name := fun r hr => by
    obtain ⟨q, -, rfl⟩ := List.mem_map.1 (mem_recordsAt.1 hr).1
    rfl
  have hmember : ∀ r ∈ group, (reread r = r ↔ r.data.NoBlankBeforeDot) ∧
      (reread r ≠ r → (reread r).data.hostLength < r.data.hostLength) :=
    fun r hr => NativeSet.reread_of_mem hset hlabel hzone hr
  have hsame : group.map reread = group ↔ ∀ r ∈ group, reread r = r := by
    conv => lhs; rhs; rw [← List.map_id group]
    exact List.map_eq_map_iff
  refine ⟨group.map reread, NativeSet.toRecords_eq_map hset hlabel, ?_, ?_⟩
  · rw [hsame, forall₂_congr (fun r hr => (hmember r hr).1)]
    have hroot : Name.ofString d.name ≠ .root := (validate_eq_ok_iff.1 h).2.1
    have hhosts := DesiredRecord.noBlankBeforeDot_iff hroot
    constructor
    · intro hall r hr hl
      exact (hhosts r).1 (hall _ (mem_recordsAt.2 ⟨List.mem_map_of_mem hr, hl⟩))
    · intro hall r hr
      obtain ⟨hr, hl⟩ := mem_recordsAt.1 hr
      obtain ⟨q, hq, rfl⟩ := List.mem_map.1 hr
      exact (hhosts q).2 (hall q hq hl)
  · intro observed capabilities cs hobserved hcompute
    rw [Correction.exists_label_iff hcompute, hobserved, not_iff_not, recordsAt_eq_iff, hsame]
    constructor
    · intro hagree
      refine fixed_of_covered (fun r => r.data.hostLength)
        (fun r hr => (hmember r hr).2) (fun r hr => ?_)
      obtain ⟨hr, hl⟩ := mem_recordsAt.1 hr
      exact List.mem_map.1 ((hagree r hl).1 hr)
    · intro hfixed r hl
      rw [hsame.2 hfixed, hgroup, mem_recordsAt]
      exact ⟨fun hr => ⟨hr, hl⟩, fun hr => hr.1⟩

/-- Two exchanges and an alias whose target ends in white space but for the dot. -/
private def spacedDomain : Domain where
  name := "example.com"
  records :=
    [{ name := "@", ttl := 300, data := .mx 10 "Mail" },
      { name := "@", ttl := 300, data := .mx 20 "mx.example.org." },
      { name := "www", ttl := 300, data := .cname "host.example.org ." }]

private def exchangeLabel : Label := .new "example.com" .mx

private def aliasLabel : Label := .new "www.example.com" .cname

private def spacedSet (l : Label) : NativeSet :=
  ⟨300, (recordsAt l spacedDomain.desiredRecords).map NativeSet.member⟩

private theorem ofRecords_spaced {l : Label}
    (hne : recordsAt l spacedDomain.desiredRecords ≠ []) :
    NativeSet.ofRecords {} ((Snapshot.group spacedDomain.desiredRecords).members l) =
      .ok (some (spacedSet l)) := by
  have hall : ∀ r ∈ spacedDomain.desiredRecords,
      r.ttl = 300 ∧ Capabilities.check {} r = .ok () := by
    decide +kernel
  rw [Snapshot.members_group]
  refine NativeSet.ofRecords_eq_ok_some_iff.2 ⟨hne, rfl, l, fun r hr => ?_⟩
  obtain ⟨hmem, hlabel⟩ := mem_recordsAt.1 hr
  exact ⟨hlabel, (hall r hmem).1, (hall r hmem).2⟩

/-- The exchanges come back as they are desired, and the alias does not. -/
theorem readBack_iff_spaced :
    spacedDomain.validate = .ok () ∧
      (∃ set : NativeSet,
        NativeSet.ofRecords {}
          ((Snapshot.group spacedDomain.desiredRecords).members exchangeLabel) = .ok (some set) ∧
        set.toRecords "example.com" "example.com." .mx =
          .ok ((Snapshot.group spacedDomain.desiredRecords).members exchangeLabel)) ∧
      ∃ (set : NativeSet) (back : List Record),
        NativeSet.ofRecords {} ((Snapshot.group spacedDomain.desiredRecords).members aliasLabel) =
          .ok (some set) ∧
        set.toRecords "example.com" "www.example.com." .cname = .ok back ∧
        back ≠ (Snapshot.group spacedDomain.desiredRecords).members aliasLabel := by
  have hvalid : spacedDomain.validate = .ok () := by decide +kernel
  refine ⟨hvalid, ?_, ?_⟩
  · have hset := ofRecords_spaced (l := exchangeLabel) (by decide +kernel)
    obtain ⟨back, hback, hsame, -⟩ := readBack_iff hvalid hset
    have hplain : back = (Snapshot.group spacedDomain.desiredRecords).members exchangeLabel :=
      hsame.2 (by decide +kernel)
    exact ⟨_, hset, hplain ▸ hback⟩
  · have hset := ofRecords_spaced (l := aliasLabel) (by decide +kernel)
    obtain ⟨back, hback, hsame, -⟩ := readBack_iff hvalid hset
    exact ⟨_, back, hset, hback, fun heq => absurd (hsame.1 heq) (by decide +kernel)⟩

/-- An accepted domain with a label that is not read back as it is desired, and that is
planned again when it has just been written. -/
theorem written_label_planned_again :
    spacedDomain.validate = .ok () ∧ ∃ (set : NativeSet) (back : List Record),
      NativeSet.ofRecords {} ((Snapshot.group spacedDomain.desiredRecords).members aliasLabel) =
        .ok (some set) ∧
      set.toRecords "example.com" "www.example.com." .cname = .ok back ∧
      back ≠ (Snapshot.group spacedDomain.desiredRecords).members aliasLabel ∧
      ∃ cs, Correction.compute "example.com" spacedDomain.desiredRecords back {} = .ok cs ∧
        ∃ c ∈ cs, c.label = aliasLabel := by
  have hset := ofRecords_spaced (l := aliasLabel) (by decide +kernel)
  rw [Snapshot.members_group] at hset ⊢
  set back := (recordsAt aliasLabel spacedDomain.desiredRecords).map
    (NativeSet.reread "example.com" "www.example.com." 300) with hback
  have hread : (spacedSet aliasLabel).toRecords "example.com" "www.example.com." .cname =
      .ok back :=
    NativeSet.toRecords_eq_map hset fun r hr => (mem_recordsAt.1 hr).2
  have hother : recordsAt aliasLabel spacedDomain.desiredRecords ≠ recordsAt aliasLabel back := by
    decide +kernel
  have hplans : (Correction.compute "example.com" spacedDomain.desiredRecords back
      {}).toOption.isSome = true := by
    decide +kernel
  cases hcs : Correction.compute "example.com" spacedDomain.desiredRecords back {} with
  | error e =>
    rw [hcs] at hplans
    cases hplans
  | ok cs =>
    exact ⟨by decide +kernel, _, back, hset, hread, by decide +kernel, cs, hcs,
      (Correction.exists_label_iff hcs).2 hother⟩

end Domain

end DnsReconcile
