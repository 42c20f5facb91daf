import DnsReconcile.Config
import DnsReconcile.Proofs.Hostability
import DnsReconcile.Proofs.NameParts

/-!
What an accepted configuration promises.

Configurations are checked as they are spelled, while zones are planned in canonical form.
The checks carry over: the domains of an accepted configuration are different zones
(`Config.nodup_zones`), and every desired record of a domain stands in its zone under a
name that fits into DNS messages, however the owner is spelled (`Domain.standsIn`).
-/

namespace DnsReconcile

/-- A name is accepted if it is plain and short. -/
theorem validateName_eq_ok_iff {name : String} :
    validateName name = .ok () ↔ name.utf8ByteSize ≤ 253 ∧ Plain name.toList := by
  have hlong : longLabel? name = none ↔ ∀ part ∈ splitDots name.toList, part.length ≤ 63 := by
    simp only [longLabel?, List.find?_eq_none, decide_eq_true_eq, not_lt]
    constructor
    · intro h part hpart
      rcases mem_splitDots_dropEndWhile hpart with rfl | hpart
      · exact Nat.zero_le 63
      · exact h part hpart
    · intro h part hpart
      have hpiece := (isInfix_of_mem_splitDots hpart).trans
        (Text.dropEndWhile_isPrefix _ name.toList).isInfix
      obtain ⟨whole, hwhole, hlength⟩ :=
        exists_part_of_isInfix hpiece (dot_notMem_of_mem_splitDots hpart)
      exact hlength.length_le.trans (h whole hwhole)
  unfold validateName
  split
  · rename_i hsize
    exact ⟨nofun, fun h => absurd h.1 (Nat.not_le.2 hsize)⟩
  split
  · rename_i hascii
    refine ⟨nofun, fun h => ?_⟩
    have hall : name.toList.all (·.toNat < 128) = true := by simpa using h.2.ascii
    rw [hall] at hascii
    cases hascii
  · rename_i hsize hascii
    split
    · rename_i part hpart
      refine ⟨nofun, fun h => ?_⟩
      rw [hlong.2 h.2.parts] at hpart
      cases hpart
    · rename_i hnone
      exact ⟨fun _ => ⟨Nat.not_lt.1 hsize, by simpa using hascii, hlong.1 hnone⟩, fun _ => rfl⟩

namespace Domain

variable {d : Domain} {r : DesiredRecord} {rs : List DesiredRecord}

theorem validateRecord_eq_ok_iff :
    d.validateRecord r = .ok () ↔
      (r.name = "@" ∨ validateName r.name = .ok ()) ∧ r.ttl ≠ 0 ∧ r.data ≠ .txt [] ∧
        (r.owner d.name).isWithin d.zone = true := by
  unfold validateRecord
  by_cases hapex : r.name = "@"
  · simp [hapex, Except.guard_eq_ok_iff, Except.last_guard_eq_ok_iff]
  · simp [hapex, Except.check_eq_ok_iff, Except.guard_eq_ok_iff, Except.last_guard_eq_ok_iff]

theorem validateRecords_eq_ok_iff :
    d.validateRecords rs = .ok () ↔ ∀ r ∈ rs, d.validateRecord r = .ok () := by
  induction rs with
  | nil => simp [validateRecords]
  | cons r rest ih => rw [validateRecords, Except.check_eq_ok_iff, List.forall_mem_cons, ih]

theorem validate_eq_ok_iff :
    d.validate = .ok () ↔ validateName d.name = .ok () ∧ d.zone ≠ .root ∧
      ∀ r ∈ d.records, d.validateRecord r = .ok () := by
  unfold validate
  rw [Except.check_eq_ok_iff, Except.guard_eq_ok_iff, validateRecords_eq_ok_iff]

end Domain

namespace Config

variable {c : Config} {ds : List Domain} {seen : List Name}

theorem validateDomains_eq_ok_iff :
    validateDomains seen ds = .ok () ↔ (∀ d ∈ ds, d.validate = .ok ()) ∧
      (ds.map Domain.zone).Nodup ∧ ∀ d ∈ ds, d.zone ∉ seen := by
  induction ds generalizing seen with
  | nil => simp [validateDomains]
  | cons d rest ih =>
    rw [validateDomains, Except.check_eq_ok_iff, Except.guard_eq_ok_iff, ih]
    simp only [List.map_cons, List.nodup_cons, List.mem_map, List.mem_cons, forall_eq_or_imp,
      not_or, not_exists, not_and]
    constructor
    · rintro ⟨hd, hseen, hrest, hnodup, hfree⟩
      exact ⟨⟨hd, hrest⟩, ⟨fun e he => (hfree e he).1, hnodup⟩, hseen,
        fun e he => (hfree e he).2⟩
    · rintro ⟨⟨hd, hrest⟩, ⟨hnew, hnodup⟩, hseen, hfree⟩
      exact ⟨hd, hseen, hrest, hnodup, fun e he => ⟨hnew e he, hfree e he⟩⟩

theorem validateDomains_of_validate (h : c.validate = .ok ()) :
    validateDomains [] c.domains = .ok () := by
  unfold validate at h
  rw [Except.guard_eq_ok_iff, Except.check_eq_ok_iff, Except.check_eq_ok_iff] at h
  exact h.2.2.2

theorem validate_of_mem (h : c.validate = .ok ()) {d : Domain} (hd : d ∈ c.domains) :
    d.validate = .ok () :=
  (validateDomains_eq_ok_iff.1 (validateDomains_of_validate h)).1 d hd

/-- The domains of an accepted configuration are different zones. -/
theorem nodup_zones (h : c.validate = .ok ()) : (c.domains.map Domain.zone).Nodup :=
  (validateDomains_eq_ok_iff.1 (validateDomains_of_validate h)).2.1

end Config

/-- The record is one of the zone: its canonical name lies in the zone and fits into DNS
messages, it may be kept for a while, and it has content. -/
structure Record.StandsIn (r : Record) (apex : Name) : Prop where
  zone : r.zone = apex
  canonical : fqdn r.name.text = r.name.text
  within : r.name = apex ∨ '.' :: apex.text.toList <:+ r.name.text.toList
  ascii : ∀ c ∈ r.name.text.toList, c.toNat < 128
  labels : ∀ part ∈ splitDots r.name.text.toList, (String.ofList part).utf8ByteSize ≤ 63
  ttl : 0 < r.ttl
  strings : r.data ≠ .txt []

theorem Name.isWithin_eq_true_iff {name zone : Name} (hzone : zone ≠ .root) :
    name.isWithin zone = true ↔ name = zone ∨ '.' :: zone.text.toList <:+ name.text.toList := by
  simp [isWithin, hzone]

theorem RecordData.canonical_mapHost_ne (f : String → String) {data : RecordData}
    (h : data ≠ .txt []) : (data.mapHost f).canonical ≠ .txt [] := by
  cases data <;> simp_all [mapHost, canonical]

/-- Every desired record of an accepted domain stands in its zone. -/
theorem Domain.standsIn {d : Domain} (h : d.validate = .ok ()) {rec : Record}
    (hrec : rec ∈ d.desiredRecords) : rec.StandsIn d.zone := by
  obtain ⟨hzone, hroot, hrecords⟩ := validate_eq_ok_iff.1 h
  obtain ⟨r, hr, rfl⟩ := List.mem_map.1 hrec
  obtain ⟨hname, httl, hdata, hwithin⟩ := validateRecord_eq_ok_iff.1 (hrecords r hr)
  have hplain : Plain r.name.toList := by
    rcases hname with hapex | hname
    · exact hapex ▸ Plain.apexSign
    · exact (validateName_eq_ok_iff.1 hname).2
  have howner : Plain (r.owner d.name).text.toList :=
    hplain.qualify (validateName_eq_ok_iff.1 hzone).2
  have hsame : (r.toRecord d.name).name = r.owner d.name := Name.ofString_text _
  refine
    { zone := rfl
      canonical := (r.toRecord d.name).name.canonical
      within := ?_
      ascii := ?_
      labels := ?_
      ttl := ?_
      strings := RecordData.canonical_mapHost_ne _ hdata }
  · rw [hsame]
    exact (Name.isWithin_eq_true_iff hroot).1 hwithin
  · rw [hsame]
    exact howner.ascii
  · rw [hsame]
    exact fun part hpart => howner.utf8ByteSize_le hpart
  · exact UInt32.pos_iff_ne_zero.2 httl

/-- By default a provider is taken to host every record that has content. -/
theorem Capabilities.check_default {r : Record} (h : r.data ≠ .txt []) :
    ({} : Capabilities).check r = .ok () := by
  have htype : ({} : Capabilities).supports r.type = true := by
    cases r.type <;> rfl
  have hnone : ({} : Capabilities).obstacle? r = none := by
    unfold obstacle?
    rw [htype]
    cases hdata : r.data with
    | txt strings => cases strings <;> simp_all
    | _ => simp
  rw [check, hnone]

/-- An accepted configuration has domains that are different zones below the root, and all
desired records of each stand in its zone, so that a provider with the default capabilities
can host them. -/
theorem Config.validate_sound {c : Config} (h : c.validate = .ok ()) :
    (c.domains.map Domain.zone).Nodup ∧
      ∀ d ∈ c.domains, d.zone ≠ .root ∧ (∀ r ∈ d.desiredRecords, r.StandsIn d.zone) ∧
        ({} : Capabilities).audit d.desiredRecords = .ok () := by
  refine ⟨nodup_zones h, fun d hd => ?_⟩
  have hd := validate_of_mem h hd
  have hstands : ∀ r ∈ d.desiredRecords, r.StandsIn d.zone := fun r hr => Domain.standsIn hd hr
  refine ⟨(Domain.validate_eq_ok_iff.1 hd).2.1, hstands, ?_⟩
  exact Capabilities.audit_eq_ok_iff.2
    (fun r hr => Capabilities.check_default (hstands r hr).strings)

private def spelledOddly : Config where
  provider := .memory []
  domains :=
    [{ name := " Example.COM..",
       records :=
        [{ name := "@", data := .mx 10 "Mail" }, { name := "  ", data := .txt ["v=1"] },
          { name := "WWW ", data := .cname "@" },
          { name := "Mail.example.com...", data := .a ⟨192, 0, 2, 1⟩ }] },
      { name := "example.org" }]

/-- Names of which none is spelled in canonical form. -/
theorem Config.validate_sound_spelledOddly :
    spelledOddly.validate = .ok () ∧
      (∀ d ∈ spelledOddly.domains, ∀ r ∈ d.desiredRecords, r.StandsIn d.zone) ∧
      spelledOddly.domains.flatMap (fun d => d.desiredRecords.map (·.name.text)) =
        ["example.com.", "example.com.", "www.example.com.", "mail.example.com."] := by
  have hvalid : spelledOddly.validate = .ok () := by decide +kernel
  exact ⟨hvalid, fun d hd => ((validate_sound hvalid).2 d hd).2.1, by decide +kernel⟩

end DnsReconcile
