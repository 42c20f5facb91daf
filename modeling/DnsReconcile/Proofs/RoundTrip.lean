import DnsReconcile.NativeSet
import DnsReconcile.Proofs.Addresses
import DnsReconcile.Proofs.Checks
import DnsReconcile.Proofs.Hosts

/-!
Records written in native form and read back.

Numbers, addresses and texts are read back as they were written. A host name is
written without its final dot, so the data that is read holds the name in that
spelling (`read_write`), and only its canonical form decides whether the record
is the same (`canonical_spelled_iff`). Put together over the members of a set
this says which sets of records survive the way to a provider and back
(`toRecords_ofRecords_iff`).
-/

namespace DnsReconcile

open Text

namespace Content

theorem number_nat {bound n : Nat} (field : String) (h : n < bound) :
    number bound field (.nat n) = .ok n := by
  simp [number, natural?, Json.nat, h]

theorem octet_nat (field : String) (n : UInt8) : octet field (.nat n.toNat) = .ok n := by
  rw [octet, number_nat field n.toNat_lt]
  simp [Except.map]

theorem word_nat (field : String) (n : UInt16) : word field (.nat n.toNat) = .ok n := by
  rw [word, number_nat field n.toNat_lt]
  simp [Except.map]

theorem texts_strings (field : String) (ss : List String) :
    texts field (ss.map .string) = .ok ss := by
  induction ss with
  | nil => rfl
  | cons s ss ih =>
    rw [List.map_cons, texts, ih]
    rfl

theorem address_string {α : Type} {ofString? : String → Option α} (field : String) {s : String}
    {a : α} (htrim : trimmed s = s) (hread : ofString? s = some a) :
    address ofString? field (.string s) = .ok a := by
  simp [address, text, htrim, hread, Except.bind, bind]

/-- The data with its host name in the spelling in which it is written. -/
def spelled : RecordData → RecordData
  | .srv priority weight port target =>
    .srv priority weight port (if target = "." then "." else withoutFinalDot target)
  | other => other.mapHost withoutFinalDot

/-- What is written is read back, host names in the spelling of the native
form. Only a TXT record without strings is written as nothing at all. -/
theorem read_write {d : RecordData} (h : d ≠ .txt []) :
    read d.type (write d) = .ok (spelled d) := by
  cases d with
  | a address =>
    rw [write, RecordData.type, read, address_string _ address.trimmed_text address.ofString?_text]
    rfl
  | aaaa address =>
    rw [write, RecordData.type, read, address_string _ address.trimmed_text address.ofString?_text]
    rfl
  | caa flags tag value =>
    rw [write, RecordData.type, read, octet_nat]
    rfl
  | cname target => rfl
  | mx preference exchange =>
    rw [write, RecordData.type, read, word_nat]
    rfl
  | ns target => rfl
  | srv priority weight port target =>
    rw [write, RecordData.type, read, word_nat, word_nat, word_nat]
    rfl
  | txt strings =>
    cases strings with
    | nil => exact absurd rfl h
    | cons s ss =>
      have htexts := texts_strings "text" (s :: ss)
      rw [List.map_cons] at htexts
      rw [write, RecordData.type, List.map_cons, read, htexts]
      · rfl
      · rintro ⟨⟩

private theorem fqdn_srv_iff {target : String} (h : fqdn target = target) :
    fqdn (if target = "." then "." else withoutFinalDot target) = target ↔
      blankBeforeDot target = false := by
  split
  · rename_i hroot
    rw [hroot] at h ⊢
    exact ⟨fun _ => by decide, fun _ => h⟩
  · exact fqdn_withoutFinalDot_iff h

/-- Canonical data is found again behind the spelling of the native form
exactly if no white space stands before the dot that the spelling leaves out. -/
theorem canonical_spelled_iff {d : RecordData} (h : d.canonical = d) :
    (spelled d).canonical = d ↔ d.NoBlankBeforeDot := by
  have hhost : ∀ host ∈ d.host?, fqdn host = host := fun _ => d.fqdn_of_mem_host? h
  cases d with
  | a _ | aaaa _ | caa _ _ _ | txt _ => exact ⟨by rintro _ _ ⟨⟩, fun _ => h⟩
  | cname target | ns target | mx _ target =>
    simpa [spelled, RecordData.canonical, RecordData.mapHost, RecordData.NoBlankBeforeDot,
      RecordData.host?] using fqdn_withoutFinalDot_iff (hhost target rfl)
  | srv _ _ _ target =>
    simpa [spelled, RecordData.canonical, RecordData.mapHost, RecordData.NoBlankBeforeDot,
      RecordData.host?] using fqdn_srv_iff (hhost target rfl)

end Content

theorem Capabilities.not_emptyText_of_check {capabilities : Capabilities} {r : Record}
    (h : capabilities.check r = .ok ()) : r.data ≠ .txt [] := by
  intro hdata
  unfold check obstacle? at h
  rw [hdata] at h
  split at h
  · cases h
  · rename_i hnone
    split at hnone <;> cases hnone

namespace NativeSet

def member (r : Record) : NativeRecord := { content := Content.write r.data }

/-- The records that can be written as the set of a label with a time to live. -/
structure Writable (capabilities : Capabilities) (label : Label) (ttl : UInt32) (r : Record) :
    Prop where
  label : r.label = label
  ttl : r.ttl = ttl
  check : capabilities.check r = .ok ()

private theorem writeMembers_cons_eq_ok_iff {capabilities : Capabilities} {label : Label}
    {ttl : UInt32} {r : Record} {rest : List Record} {members : List NativeRecord} :
    writeMembers capabilities label ttl (r :: rest) = .ok members ↔
      Writable capabilities label ttl r ∧
        ∃ ms, writeMembers capabilities label ttl rest = .ok ms ∧ members = member r :: ms := by
  rw [writeMembers, Except.guard_eq_ok_iff, Except.guard_eq_ok_iff, Except.check_eq_ok_iff,
    Except.bind_eq_ok_iff, not_not, not_not]
  constructor
  · rintro ⟨hlabel, httl, hcheck, ms, hrest, hmembers⟩
    exact ⟨⟨hlabel, httl, hcheck⟩, ms, hrest, (Except.ok.inj hmembers).symm⟩
  · rintro ⟨hr, ms, hrest, rfl⟩
    exact ⟨hr.label, hr.ttl, hr.check, ms, hrest, rfl⟩

theorem writeMembers_eq_ok_iff {capabilities : Capabilities} {label : Label} {ttl : UInt32}
    {rs : List Record} {members : List NativeRecord} :
    writeMembers capabilities label ttl rs = .ok members ↔
      (∀ r ∈ rs, Writable capabilities label ttl r) ∧ members = rs.map member := by
  induction rs generalizing members with
  | nil =>
    rw [writeMembers, Except.ok.injEq]
    exact ⟨fun h => ⟨by simp, h.symm⟩, fun h => h.2.symm⟩
  | cons r rest ih =>
    rw [writeMembers_cons_eq_ok_iff, List.forall_mem_cons, List.map_cons]
    constructor
    · rintro ⟨hr, ms, hrest, rfl⟩
      obtain ⟨hall, rfl⟩ := ih.1 hrest
      exact ⟨⟨hr, hall⟩, rfl⟩
    · rintro ⟨⟨hr, hall⟩, rfl⟩
      exact ⟨hr, rest.map member, ih.2 ⟨hall, rfl⟩, rfl⟩

/-- A list of records makes a set exactly if it is not empty, its records share
a label and a time to live and each of them can be hosted. -/
theorem ofRecords_eq_ok_some_iff {capabilities : Capabilities} {rs : List Record}
    {set : NativeSet} :
    ofRecords capabilities rs = .ok (some set) ↔
      rs ≠ [] ∧ set.records = rs.map member ∧
        ∃ label, ∀ r ∈ rs, Writable capabilities label set.ttl r := by
  cases rs with
  | nil => simp [ofRecords]
  | cons r rest =>
    have hset : ofRecords capabilities (r :: rest) = .ok (some set) ↔ r.ttl = set.ttl ∧
        writeMembers capabilities r.label r.ttl (r :: rest) = .ok set.records := by
      rw [ofRecords, Except.bind_eq_ok_iff]
      obtain ⟨ttl, records⟩ := set
      simp [pure, Except.pure, and_comm]
    rw [hset, writeMembers_eq_ok_iff]
    constructor
    · rintro ⟨httl, hall, hrecords⟩
      exact ⟨by simp, hrecords, r.label, httl ▸ hall⟩
    · rintro ⟨-, hrecords, label, hall⟩
      have hr := hall r List.mem_cons_self
      refine ⟨hr.ttl, ?_, hrecords⟩
      rw [hr.label, hr.ttl]
      exact hall

/-- The record with the given owner that the member of another is read as. -/
def reread (zone name : String) (ttl : UInt32) (r : Record) : Record :=
  .new zone name ttl (Content.spelled r.data)

theorem readMembers_member {zone name : String} {type : RecordType} {ttl : UInt32}
    {rs : List Record} (h : ∀ r ∈ rs, r.type = type ∧ r.data ≠ .txt []) :
    readMembers zone name type ttl (rs.map member) = .ok (rs.map (reread zone name ttl)) := by
  induction rs with
  | nil => rfl
  | cons r rest ih =>
    obtain ⟨⟨htype, hdata⟩, hrest⟩ := List.forall_mem_cons.1 h
    have hread : Content.read type (member r).content = .ok (Content.spelled r.data) := by
      rw [← htype]
      exact Content.read_write hdata
    rw [List.map_cons, List.map_cons, readMembers, hread, ih hrest]
    rfl

theorem reread_eq_iff {zone : String} {r : Record} (hzone : r.zone = .ofString zone) :
    reread zone r.name.text r.ttl r = r ↔ r.data.NoBlankBeforeDot := by
  rw [← Content.canonical_spelled_iff r.canonical]
  obtain ⟨rzone, name, ttl, data, canonical⟩ := r
  simp [reread, Record.new, ← hzone]

/-- Records without white space before a final dot are read back from the set that
is made of them, with the time to live of the set. -/
theorem toRecords_of_ofRecords {zone : String} {capabilities : Capabilities} {label : Label}
    {rs : List Record} {set : NativeSet} (h : ofRecords capabilities rs = .ok (some set))
    (hzone : ∀ r ∈ rs, r.zone = .ofString zone) (hlabel : ∀ r ∈ rs, r.label = label)
    (hblank : ∀ r ∈ rs, r.data.NoBlankBeforeDot) :
    set.toRecords zone label.name.text label.type = .ok rs ∧ ∀ r ∈ rs, r.ttl = set.ttl := by
  obtain ⟨-, hrecords, _, hwritable⟩ := ofRecords_eq_ok_some_iff.1 h
  refine ⟨?_, fun r hr => (hwritable r hr).ttl⟩
  have hread : ∀ r ∈ rs, r.type = label.type ∧ r.data ≠ .txt [] := fun r hr =>
    ⟨congrArg Label.type (hlabel r hr), Capabilities.not_emptyText_of_check (hwritable r hr).check⟩
  rw [toRecords, hrecords, readMembers_member hread]
  congr 1
  conv => rhs; rw [← List.map_id rs]
  apply List.map_congr_left
  intro r hr
  rw [← hlabel r hr, ← (hwritable r hr).ttl]
  exact (reread_eq_iff (hzone r hr)).2 (hblank r hr)

/-- Records of one zone, label and time to live that can be hosted make a set of
one enabled member each, in their order. The set is always read back, and what is
read is the records themselves exactly if no white space stands directly before
the final dot of a host name in them. -/
theorem toRecords_ofRecords_iff {zone : String} {capabilities : Capabilities} {label : Label}
    {ttl : UInt32} {rs : List Record} (hne : rs ≠ [])
    (hnew : ∀ r ∈ rs, ∃ name data, r = .new zone name ttl data)
    (hlabel : ∀ r ∈ rs, r.label = label) (hcheck : ∀ r ∈ rs, capabilities.check r = .ok ()) :
    ∃ set, ofRecords capabilities rs = .ok (some set) ∧ set.ttl = ttl ∧
      set.records = rs.map (fun r => { content := Content.write r.data, enabled := true }) ∧
      ∃ back, set.toRecords zone label.name.text label.type = .ok back ∧
        (back = rs ↔ ∀ r ∈ rs, r.data.NoBlankBeforeDot) := by
  have hparts : ∀ r ∈ rs, r.zone = .ofString zone ∧ r.ttl = ttl := by
    intro r hr
    obtain ⟨name, data, rfl⟩ := hnew r hr
    exact ⟨rfl, rfl⟩
  have hwritable : ∀ r ∈ rs, Writable capabilities label ttl r :=
    fun r hr => ⟨hlabel r hr, (hparts r hr).2, hcheck r hr⟩
  refine ⟨⟨ttl, rs.map member⟩, ofRecords_eq_ok_some_iff.2 ⟨hne, rfl, label, hwritable⟩, rfl, rfl,
    rs.map (reread zone label.name.text ttl), ?_, ?_⟩
  · apply readMembers_member
    intro r hr
    exact ⟨congrArg Label.type (hlabel r hr), Capabilities.not_emptyText_of_check (hcheck r hr)⟩
  · have hsame : ∀ r ∈ rs, (reread zone label.name.text ttl r = r ↔ r.data.NoBlankBeforeDot) := by
      intro r hr
      rw [← reread_eq_iff (hparts r hr).1, (hparts r hr).2, ← hlabel r hr]
      rfl
    have hmap : rs.map (reread zone label.name.text ttl) = rs ↔
        ∀ r ∈ rs, reread zone label.name.text ttl r = r := by
      conv => lhs; rhs; rw [← List.map_id rs]
      exact List.map_eq_map_iff
    rw [hmap]
    exact forall₂_congr hsame

private def sipRecords : List Record :=
  [.new "example.com" "_sip._tcp.example.com" 300 (.srv 10 5 5060 "SIP.example.com"),
    .new "example.com" "_sip._tcp.example.com" 300 (.srv 0 0 0 ".")]

private def mailRecords : List Record :=
  [.new "example.com" "example.com" 300 (.mx 10 "mx.example.com"),
    .new "example.com" "example.com" 300 (.mx 20 "backup .")]

/-- The null target of an SRV record comes back, while a mail exchange whose
name ends in white space comes back as another host. -/
theorem toRecords_ofRecords_sip_mail :
    (∃ set back, ofRecords {} sipRecords = .ok (some set) ∧
      set.toRecords "example.com" "_sip._tcp.example.com." .srv = .ok back ∧ back = sipRecords) ∧
    ∃ set back, ofRecords {} mailRecords = .ok (some set) ∧
      set.toRecords "example.com" "example.com." .mx = .ok back ∧ back ≠ mailRecords := by
  constructor
  · have hnew : ∀ r ∈ sipRecords, ∃ name data, r = .new "example.com" name 300 data :=
      List.forall_mem_cons.2 ⟨⟨_, _, rfl⟩, List.forall_mem_singleton.2 ⟨_, _, rfl⟩⟩
    have hlabel : ∀ r ∈ sipRecords, r.label = .new "_sip._tcp.example.com" .srv := by
      decide +kernel
    have hcheck : ∀ r ∈ sipRecords, Capabilities.check {} r = .ok () := by decide +kernel
    obtain ⟨set, hset, -, -, back, hback, hiff⟩ :=
      toRecords_ofRecords_iff (by decide) hnew hlabel hcheck
    exact ⟨set, back, hset, hback, hiff.2 (by decide +kernel)⟩
  · have hnew : ∀ r ∈ mailRecords, ∃ name data, r = .new "example.com" name 300 data :=
      List.forall_mem_cons.2 ⟨⟨_, _, rfl⟩, List.forall_mem_singleton.2 ⟨_, _, rfl⟩⟩
    have hlabel : ∀ r ∈ mailRecords, r.label = .new "example.com" .mx := by decide +kernel
    have hcheck : ∀ r ∈ mailRecords, Capabilities.check {} r = .ok () := by decide +kernel
    obtain ⟨set, hset, -, -, back, hback, hiff⟩ :=
      toRecords_ofRecords_iff (by decide) hnew hlabel hcheck
    exact ⟨set, back, hset, hback, fun heq => absurd (hiff.1 heq) (by decide +kernel)⟩

end NativeSet

end DnsReconcile
