import DnsReconcile.Format.Config
import DnsReconcile.Format.NativeSet
import DnsReconcile.Proofs.Addresses
import DnsReconcile.Proofs.JsonText
import DnsReconcile.Proofs.JsonValue

/-!
Configurations and record sets written as text and read back.

Each part of a configuration is read from every document that writes it, whatever the order of
its members, and a rendered value is such a document. So a configuration comes back from its
text as it was, and so does a record set, unless a value that they hold for others is nested
too deeply for a text (`Config.ofText_render`).
-/

namespace DnsReconcile

open Document

namespace Json

/-- Whether a value is rendered as a text that writes it: its numbers are integers of 64 bits
and its members in order. -/
structure IsStored (v : Json) : Prop where
  exact : v.IsExact
  ordered : v.IsOrdered

theorem isStored_string (s : String) : (Json.string s).IsStored := ⟨.string s, .string s⟩

theorem isStored_bool (b : Bool) : (Json.bool b).IsStored := ⟨.bool b, .bool b⟩

theorem isStored_nat {n : Nat} (h : n < 2 ^ 64) : (Json.nat n).IsStored :=
  ⟨.number ⟨by omega, by omega⟩, .number _⟩

theorem isStored_array {α : Type} {write : α → Json} {as : List α}
    (h : ∀ a ∈ as, (write a).IsStored) : (Json.array (as.map write)).IsStored :=
  ⟨.array (List.forall_mem_map.2 fun a ha => (h a ha).exact),
    .array (List.forall_mem_map.2 fun a ha => (h a ha).ordered)⟩

theorem isStored_ofMembers {ms : List (String × Json)} (hnodup : (ms.map (·.1)).Nodup)
    (h : ∀ m ∈ ms, m.2.IsStored) : (ofMembers ms).IsStored := by
  obtain ⟨es, hes, hascending, hmem⟩ := exists_ofMembers hnodup
  rw [hes]
  exact ⟨.object fun m hm => (h m ((hmem m).1 hm)).exact,
    .object hascending fun m hm => (h m ((hmem m).1 hm)).ordered⟩

theorem depth_array_le_iff {xs : List Json} {k : Nat} :
    (Json.array xs).depth ≤ k + 1 ↔ ∀ x ∈ xs, x.depth ≤ k := by
  rw [depth, ofJson, Document.depth, Nat.add_le_add_iff_right, elementDepth_le_iff,
    ofElements_eq_map, List.forall_mem_map]
  rfl

theorem isStored_texts (ss : List String) : (Json.array (ss.map .string)).IsStored :=
  isStored_array fun s _ => isStored_string s

theorem depth_texts_le (ss : List String) : (Json.array (ss.map .string)).depth ≤ 1 :=
  depth_array_le_iff.2 (List.forall_mem_map.2 fun _ _ => Nat.le_refl 0)

theorem depth_ofMembers_le_iff {ms : List (String × Json)} (hnodup : (ms.map (·.1)).Nodup)
    {k : Nat} : (ofMembers ms).depth ≤ k + 1 ↔ ∀ m ∈ ms, m.2.depth ≤ k := by
  obtain ⟨es, hes, -, hmem⟩ := exists_ofMembers hnodup
  rw [hes, depth, ofJson, Document.depth, Nat.add_le_add_iff_right, memberDepth_le_iff,
    ofMembers_eq_map, List.forall_mem_map]
  exact forall_congr' fun m => by rw [hmem m]; rfl

end Json

namespace Document

/-- Whether a value may stand inside `level` arrays and objects of a text. -/
def mayStand (level : Nat) (v : Json) : Bool := level + v.depth ≤ maxDepth

theorem decodes_keptJson? (level : Nat) (v : Json) :
    Decodes (keptJson? level) v (Option.guard (mayStand level) v) := by
  intro d h
  rw [keptJson?, h.depth_eq, h.toJson?]
  simp [Option.guard, mayStand]

theorem Writes.isSound_eq {d : Document} {v : Json} (h : Writes d v) (level : Nat) :
    d.isSound level = mayStand level v := by
  rw [isSound, decodes_keptJson? level v d h]
  cases hstands : mayStand level v <;> simp [Option.guard, hstands]

end Document

namespace RecordData

/-- Record data is read from its members. -/
theorem ofFields?_of_members {fs : List (String × Document)} {data : RecordData}
    (h : FieldsWrite fs data.members) : ofFields? data.type fs = some data := by
  cases data with
  | a address =>
    simp [ofFields?, type, IPv4.ofString?_text,
      h.required? "address" (by simp [members]) (decodes_text? address.text)]
  | aaaa address =>
    simp [ofFields?, type, IPv6.ofString?_text,
      h.required? "address" (by simp [members]) (decodes_text? address.text)]
  | caa flags tag value =>
    simp [ofFields?, type, h.required? "flags" (by simp [members]) (decodes_uint8? flags),
      h.required? "tag" (by simp [members]) (decodes_text? tag),
      h.required? "value" (by simp [members]) (decodes_text? value)]
  | cname target =>
    simp [ofFields?, type, h.required? "target" (by simp [members]) (decodes_text? target)]
  | mx preference exchange =>
    simp [ofFields?, type,
      h.required? "preference" (by simp [members]) (decodes_uint16? preference),
      h.required? "exchange" (by simp [members]) (decodes_text? exchange)]
  | ns target =>
    simp [ofFields?, type, h.required? "target" (by simp [members]) (decodes_text? target)]
  | srv priority weight port target =>
    simp [ofFields?, type, h.required? "priority" (by simp [members]) (decodes_uint16? priority),
      h.required? "weight" (by simp [members]) (decodes_uint16? weight),
      h.required? "port" (by simp [members]) (decodes_uint16? port),
      h.required? "target" (by simp [members]) (decodes_text? target)]
  | txt strings =>
    simp [ofFields?, type, h.required? "strings" (by simp [members]) (decodes_texts strings)]

/-- The members of record data are texts, numbers and lists of texts. -/
theorem forall_mem_members {P : Json → Prop} (htext : ∀ s, P (.string s))
    (hnat : ∀ n, n < 2 ^ 64 → P (.nat n)) (htexts : ∀ ss : List String, P (.array (ss.map .string)))
    (data : RecordData) : ∀ m ∈ data.members, P m.2 := by
  have hbyte : ∀ n : UInt8, P (.nat n.toNat) := fun n => hnat _ (n.toNat_lt.trans (by decide))
  have hshort : ∀ n : UInt16, P (.nat n.toNat) := fun n => hnat _ (n.toNat_lt.trans (by decide))
  cases data <;> simp [members, htext, hbyte, hshort, htexts]

end RecordData

namespace DesiredRecord

/-- The members of a desired record, those of its data last. -/
def members (r : DesiredRecord) : List (String × Json) :=
  ("name", .string r.name) :: ("ttl", .nat r.ttl.toNat) :: r.data.members

theorem nodup_members (r : DesiredRecord) : (r.members.map (·.1)).Nodup := by
  obtain ⟨name, ttl, data⟩ := r
  cases data <;> simp [members, RecordData.members]

theorem forall_mem_members {P : Json → Prop} (htext : ∀ s, P (.string s))
    (hnat : ∀ n, n < 2 ^ 64 → P (.nat n)) (htexts : ∀ ss : List String, P (.array (ss.map .string)))
    (r : DesiredRecord) : ∀ m ∈ r.members, P m.2 := by
  rw [members, List.forall_mem_cons, List.forall_mem_cons]
  exact ⟨htext _, hnat _ (r.ttl.toNat_lt.trans (by decide)),
    RecordData.forall_mem_members htext hnat htexts r.data⟩

theorem isStored_toJson (r : DesiredRecord) : r.toJson.IsStored :=
  Json.isStored_ofMembers r.nodup_members
    (r.forall_mem_members Json.isStored_string (fun _ => Json.isStored_nat) Json.isStored_texts)

theorem depth_toJson_le (r : DesiredRecord) : r.toJson.depth ≤ 2 :=
  (Json.depth_ofMembers_le_iff r.nodup_members).2 (forall_mem_members (P := (·.depth ≤ 1))
    (fun _ => Nat.zero_le 1) (fun _ _ => Nat.zero_le 1) Json.depth_texts_le r)

theorem decodes_typeOfTag? (t : RecordType) : Decodes typeOfTag? (.string t.text) (some t) := by
  rintro d ⟨⟩
  cases t <;> rfl

/-- A desired record is read from what writes it. -/
theorem decodes (r : DesiredRecord) {level : Nat} (hlevel : level + 2 ≤ maxDepth) :
    Decodes (ofDocument? level) r.toJson (some r) := by
  intro d h
  obtain ⟨ds, fs, -, hfs, hfields⟩ := h.exists_members r.nodup_members
  have hsound : d.isSound level = true := (h.isSound_eq level).trans
    (decide_eq_true ((Nat.add_le_add_left r.depth_toJson_le level).trans hlevel))
  have hdata : FieldsWrite fs r.data.members :=
    hfields.mono fun m hm => List.mem_cons_of_mem _ (List.mem_cons_of_mem _ hm)
  simp [ofDocument?, hfs, hsound,
    hfields.required? "name" (by simp) (decodes_text? r.name),
    hfields.optional? "ttl" (by simp) (decodes_uint32? r.ttl),
    hdata.required? "type" List.mem_cons_self (decodes_typeOfTag? r.data.type),
    RecordData.ofFields?_of_members hdata]

end DesiredRecord

namespace Domain

theorem isStored_toJson (d : Domain) : d.toJson.IsStored := by
  refine Json.isStored_ofMembers (by simp) ?_
  simp only [List.forall_mem_cons]
  exact ⟨Json.isStored_string d.name, Json.isStored_array fun r _ => r.isStored_toJson, nofun⟩

/-- A domain is read from what writes it. -/
theorem decodes (d : Domain) {level : Nat} (hlevel : level + 4 ≤ maxDepth) :
    Decodes (ofDocument? level) d.toJson (some d) := by
  intro doc h
  obtain ⟨fs, hfs, hfields⟩ := h.exists_fields ["name", "records"] (by simp)
  have hrecords : Decodes (list? (DesiredRecord.ofDocument? (level + 2)))
      (.array (d.records.map (·.toJson))) (some d.records) :=
    decodes_list? fun r _ => r.decodes hlevel
  simp [ofDocument?, hfs, hfields.required? "name" (by simp) (decodes_text? d.name),
    hfields.optional? "records" (by simp) hrecords]

end Domain

theorem FailurePolicy.decodes (p : FailurePolicy) :
    Decodes ofDocument? (.string p.text) (some p) := by
  rintro d ⟨⟩
  cases p <;> rfl

namespace EngineConfig

theorem isStored_toJson (e : EngineConfig) : e.toJson.IsStored := by
  refine Json.isStored_ofMembers (by simp) ?_
  simp only [List.forall_mem_cons]
  exact ⟨Json.isStored_nat e.maxRetries.toNat_lt, Json.isStored_nat e.retryDelay.toNat_lt,
    Json.isStored_string _, Json.isStored_nat e.maxParallel.toNat_lt,
    Json.isStored_bool e.createMissingZones, Json.isStored_nat e.eventCapacity.toNat_lt, nofun⟩

/-- Engine settings are read from what writes them. -/
theorem decodes (e : EngineConfig) : Decodes ofDocument? e.toJson (some e) := by
  intro d h
  obtain ⟨fs, hfs, hfields⟩ := h.exists_fields fieldNames (by simp)
  simp [ofDocument?, hfs,
    hfields.optional? "max_retries" (by simp) (decodes_uint64? e.maxRetries),
    hfields.optional? "retry_delay_secs" (by simp) (decodes_uint64? e.retryDelay),
    hfields.optional? "failure_policy" (by simp) e.failurePolicy.decodes,
    hfields.optional? "max_parallel_per_pass" (by simp) (decodes_uint64? e.maxParallel),
    hfields.optional? "create_missing_zones" (by simp) (decodes_bool? e.createMissingZones),
    hfields.optional? "event_channel_capacity" (by simp) (decodes_uint64? e.eventCapacity)]

end EngineConfig

namespace ProviderConfig

/-- Whether the value for a factory, if there is one, is rendered as a text that writes it. -/
def IsStored : ProviderConfig → Prop
  | custom _ config => config.IsStored
  | _ => True

/-- Whether the value for a factory, if there is one, is nested no deeper than it may be if
the provider stands inside `level` arrays and objects. -/
def mayStand (level : Nat) : ProviderConfig → Bool
  | custom _ config => Document.mayStand (level + 1) config
  | _ => true

theorem isStored_toJson {p : ProviderConfig} (h : p.IsStored) : p.toJson.IsStored := by
  cases p with
  | gcore apiKey apiUrl =>
    refine Json.isStored_ofMembers (by simp) ?_
    simp only [List.forall_mem_cons]
    refine ⟨Json.isStored_string _, Json.isStored_string apiKey, ?_, nofun⟩
    cases apiUrl with
    | none => exact ⟨.null, .null⟩
    | some url => exact Json.isStored_string url
  | memory nameservers =>
    refine Json.isStored_ofMembers (by simp) ?_
    simp only [List.forall_mem_cons]
    exact ⟨Json.isStored_string _, Json.isStored_texts nameservers, nofun⟩
  | custom factory config =>
    refine Json.isStored_ofMembers (by simp) ?_
    simp only [List.forall_mem_cons]
    exact ⟨Json.isStored_string _, Json.isStored_string factory, h, nofun⟩

/-- Only the value for a factory can be nested too deeply. -/
theorem mayStand_toJson (p : ProviderConfig) {level : Nat} (hlevel : level + 2 ≤ maxDepth) :
    Document.mayStand level p.toJson = p.mayStand level := by
  -- how deeply the members may be nested
  obtain ⟨k, hk⟩ := Nat.exists_eq_add_of_le hlevel
  have hmembers : Document.mayStand level p.toJson = decide (p.toJson.depth ≤ (k + 1) + 1) := by
    rw [Document.mayStand, decide_eq_decide]
    omega
  have htext : ∀ s : String, (Json.string s).depth ≤ k + 1 := fun s => Nat.zero_le _
  rw [hmembers]
  cases p with
  | gcore apiKey apiUrl =>
    refine decide_eq_true ((Json.depth_ofMembers_le_iff (by simp)).2 ?_)
    simp only [List.forall_mem_cons]
    refine ⟨htext _, htext apiKey, ?_, nofun⟩
    cases apiUrl with
    | none => exact Nat.zero_le _
    | some url => exact htext url
  | memory nameservers =>
    refine decide_eq_true ((Json.depth_ofMembers_le_iff (by simp)).2 ?_)
    simp only [List.forall_mem_cons]
    exact ⟨htext _, (Json.depth_texts_le nameservers).trans (Nat.le_add_left 1 k), nofun⟩
  | custom factory config =>
    refine decide_eq_decide.2 ((Json.depth_ofMembers_le_iff (by simp)).trans ?_)
    simp only [List.forall_mem_cons]
    constructor
    · intro hall
      have hconfig := hall.2.2.1
      omega
    · intro hconfig
      exact ⟨htext _, htext factory, by omega, nofun⟩

theorem decodes_optionalText? (s : Option String) :
    Decodes optionalText? ((s.map Json.string).getD .null) (some s) := by
  cases s with
  | none =>
    rintro d ⟨⟩
    rfl
  | some s =>
    rintro d ⟨⟩
    rfl

/-- The configuration of a provider is read from what writes it, unless it is nested too
deeply. -/
theorem decodes (p : ProviderConfig) (level : Nat) (hlevel : level + 2 ≤ maxDepth) :
    Decodes (ofDocument? level) p.toJson (Option.guard (mayStand level) p) := by
  intro d hd
  have hsound : d.isSound level = p.mayStand level :=
    (hd.isSound_eq level).trans (p.mayStand_toJson hlevel)
  cases p with
  | gcore apiKey apiUrl =>
    obtain ⟨ds, fs, rfl, hfs, hfields⟩ := hd.exists_members (by simp)
    simp [ofDocument?, hsound, mayStand, Option.guard, hfs, ofFields?,
      hfields.required? "type" (by simp) (decodes_text? "gcore"),
      hfields.optional? "api_key" (by simp) (decodes_text? apiKey),
      hfields.optional? "api_url" (by simp) (decodes_optionalText? apiUrl)]
  | memory nameservers =>
    obtain ⟨ds, fs, rfl, hfs, hfields⟩ := hd.exists_members (by simp)
    simp [ofDocument?, hsound, mayStand, Option.guard, hfs, ofFields?,
      hfields.required? "type" (by simp) (decodes_text? "memory"),
      hfields.optional? "nameservers" (by simp) (decodes_texts nameservers)]
  | custom factory config =>
    have hconfig : Decodes Document.toJson? config (some config) := fun d hd => hd.toJson?
    obtain ⟨ds, fs, rfl, hfs, hfields⟩ := hd.exists_members (by simp)
    rw [ofDocument?, hsound]
    cases hstands : mayStand level (custom factory config) with
    | false => simp [Option.guard, hstands]
    | true =>
      simp [Option.guard, hstands, hfs, ofFields?,
        hfields.required? "type" (by simp) (decodes_text? "custom"),
        hfields.required? "factory" (by simp) (decodes_text? factory),
        hfields.required? "config" (by simp) hconfig]

end ProviderConfig

namespace Config

theorem isStored_toJson {c : Config} (h : c.provider.IsStored) : c.toJson.IsStored := by
  refine Json.isStored_ofMembers (by simp) ?_
  simp only [List.forall_mem_cons]
  exact ⟨ProviderConfig.isStored_toJson h, Json.isStored_array fun d _ => d.isStored_toJson,
    c.engine.isStored_toJson, nofun⟩

/-- A configuration is read from what writes it, unless its provider is nested too deeply. -/
theorem decodes (c : Config) :
    Decodes ofDocument? c.toJson (Option.guard (·.provider.mayStand 1) c) := by
  intro d hd
  have hdomains : Decodes (list? (Domain.ofDocument? 2)) (.array (c.domains.map (·.toJson)))
      (some c.domains) :=
    decodes_list? fun d _ => d.decodes (by decide)
  obtain ⟨fs, hfs, hfields⟩ := hd.exists_fields ["provider", "domains", "engine"] (by simp)
  have hprovider := hfields.required? "provider" (by simp) (c.provider.decodes 1 (by decide))
  cases hstands : c.provider.mayStand 1 <;>
    simp [ofDocument?, hfs, hprovider, Option.guard, hstands,
      hfields.required? "domains" (by simp) hdomains,
      hfields.optional? "engine" (by simp) c.engine.decodes]

end Config

namespace NativeRecord

/-- Whether the content of a member inside `level` arrays and objects may stand there. -/
def mayStand (level : Nat) (r : NativeRecord) : Bool :=
  r.content.all (Document.mayStand (level + 2))

theorem isStored_toJson {r : NativeRecord} (h : ∀ v ∈ r.content, v.IsStored) :
    r.toJson.IsStored := by
  have hcontent : (Json.array r.content).IsStored :=
    ⟨.array fun v hv => (h v hv).exact, .array fun v hv => (h v hv).ordered⟩
  refine Json.isStored_ofMembers (by simp) ?_
  simp only [List.forall_mem_cons]
  exact ⟨hcontent, Json.isStored_bool r.enabled, nofun⟩

/-- A member of a set is read from what writes it, unless its content is nested too deeply. -/
theorem decodes (r : NativeRecord) (level : Nat) :
    Decodes (ofDocument? level) r.toJson (Option.guard (mayStand level) r) := by
  intro d hd
  have hcontent : Decodes (list? (keptJson? (level + 2))) (.array (r.content.map id))
      (Option.guard (·.all (Document.mayStand (level + 2))) r.content) :=
    decodes_list?_guard fun v _ => decodes_keptJson? (level + 2) v
  rw [List.map_id] at hcontent
  obtain ⟨fs, hfs, hfields⟩ := hd.exists_fields ["content", "enabled"] (by simp)
  have hread := hfields.required? "content" (by simp) hcontent
  cases hstands : r.content.all (Document.mayStand (level + 2)) <;>
    simp [ofDocument?, hfs, hread, mayStand, Option.guard, hstands,
      hfields.optional? "enabled" (by simp) (decodes_bool? r.enabled)]

end NativeRecord

namespace NativeSet

/-- Whether all content of a set may stand in a text. -/
def mayStand (set : NativeSet) : Bool := set.records.all (NativeRecord.mayStand 2)

theorem isStored_toJson {set : NativeSet} (h : ∀ r ∈ set.records, ∀ v ∈ r.content, v.IsStored) :
    set.toJson.IsStored := by
  refine Json.isStored_ofMembers (by simp) ?_
  simp only [List.forall_mem_cons]
  exact ⟨Json.isStored_nat (set.ttl.toNat_lt.trans (by decide)),
    Json.isStored_array fun r hr => NativeRecord.isStored_toJson (h r hr), nofun⟩

/-- A set is read from what writes it, unless its content is nested too deeply. -/
theorem decodes (set : NativeSet) :
    Decodes (ofDocument? 0) set.toJson (Option.guard mayStand set) := by
  intro d hd
  have hrecords : Decodes (list? (NativeRecord.ofDocument? 2))
      (.array (set.records.map (·.toJson)))
      (Option.guard (·.all (NativeRecord.mayStand 2)) set.records) :=
    decodes_list?_guard fun r _ => r.decodes 2
  obtain ⟨fs, hfs, hfields⟩ := hd.exists_fields ["ttl", "resource_records"] (by simp)
  have hread := fun absent => hfields.optional? "resource_records" (by simp) hrecords absent
  cases hstands : set.records.all (NativeRecord.mayStand 2) <;>
    simp [ofDocument?, hfs, hread, mayStand, Option.guard, hstands,
      hfields.optional? "ttl" (by simp) (decodes_uint32? set.ttl)]

end NativeSet

/-- Whether a text writes a value, with the members of its objects in some order. -/
def TextWrites (text : String) (v : Json) : Prop :=
  ∃ d, Document.ofString? text = some d ∧ Writes d v

theorem textWrites_render {v : Json} (h : v.IsStored) : TextWrites v.render v :=
  ⟨ofJson v, ofString?_render h.exact, writes_ofJson h.ordered⟩

/-- The members of an object may stand in a text as they are listed, in order or not. -/
theorem textWrites_members {ms : List (String × Json)} (hnodup : (ms.map (·.1)).Nodup)
    (h : ∀ m ∈ ms, m.2.IsStored) : TextWrites (Json.object ms).render (.ofMembers ms) :=
  ⟨_, ofString?_render (.object fun m hm => (h m hm).exact),
    writes_members hnodup fun m hm => writes_ofJson (h m hm).ordered⟩

theorem TextWrites.bind_eq {α : Type} {text : String} {v : Json} {read : Document → Option α}
    {outcome : Option α} (h : TextWrites text v) (hread : Decodes read v outcome) :
    (Document.ofString? text).bind read = outcome := by
  obtain ⟨d, hd, hwrites⟩ := h
  rw [hd]
  exact hread d hwrites

/-- A configuration and a record set come back from their rendered text as they are, whatever
the order in which their members are written. The values that they hold for others, the
configuration of a factory and the content of a set, need numbers of 64 bits, and a text is
refused exactly if one of these values is nested deeper than it may be where it stands. -/
theorem Config.ofText_render :
    (∀ c : Config, c.provider.IsStored →
      Config.ofText c.toJson.render =
        (if c.provider.mayStand 1 then .ok c else .error .json) ∧
      ∀ text, TextWrites text c.toJson → Config.ofText text = Config.ofText c.toJson.render) ∧
    ∀ set : NativeSet, (∀ r ∈ set.records, ∀ v ∈ r.content, v.IsStored) →
      NativeSet.ofText set.toJson.render = (if set.mayStand then .ok set else .error .json) ∧
      ∀ text, TextWrites text set.toJson →
        NativeSet.ofText text = NativeSet.ofText set.toJson.render := by
  constructor
  · intro c h
    have hread : ∀ text, TextWrites text c.toJson →
        Config.ofText text = if c.provider.mayStand 1 then .ok c else .error .json := by
      intro text htext
      rw [ofText, htext.bind_eq c.decodes]
      cases hstands : c.provider.mayStand 1 <;> simp [Option.guard, hstands]
    have hrendered := hread _ (textWrites_render (isStored_toJson h))
    exact ⟨hrendered, fun text htext => (hread text htext).trans hrendered.symm⟩
  · intro set h
    have hread : ∀ text, TextWrites text set.toJson →
        NativeSet.ofText text = if set.mayStand then .ok set else .error .json := by
      intro text htext
      rw [NativeSet.ofText, htext.bind_eq set.decodes]
      cases hstands : set.mayStand <;> simp [Option.guard, hstands]
    have hrendered := hread _ (textWrites_render (NativeSet.isStored_toJson h))
    exact ⟨hrendered, fun text htext => (hread text htext).trans hrendered.symm⟩

private def nested : Nat → Json
  | 0 => .string "\"\\\n"
  | n + 1 => .array [.number (.int (-(2 ^ 63))), nested n]

private theorem isStored_nested (n : Nat) : (nested n).IsStored := by
  induction n with
  | zero => exact Json.isStored_string _
  | succ n ih =>
    have hnumber : (Json.number (.int (-(2 ^ 63)))).IsStored :=
      ⟨.number ⟨by decide, by decide⟩, .number _⟩
    refine ⟨.array ?_, .array ?_⟩
    · simp only [List.forall_mem_cons]
      exact ⟨hnumber.exact, ih.exact, nofun⟩
    · simp only [List.forall_mem_cons]
      exact ⟨hnumber.ordered, ih.ordered, nofun⟩

private def nestedConfig (n : Nat) : Config where
  provider := .custom "file" (nested n)
  domains :=
    [{ name := "Example.com",
       records :=
        [{ name := "@", ttl := 0, data := .caa 255 "Issue" "ca \"1\"" },
          { name := "www", data := .aaaa ⟨[8193, 3512, 0, 0, 0, 0, 0, 1], rfl⟩ },
          { name := "_sip._tcp", data := .srv 1 65535 5060 "." },
          { name := "t", data := .txt [] }] }]
  engine := { maxRetries := 18446744073709551615, failurePolicy := .keepGoing }

private def nestedSet (n : Nat) : NativeSet := ⟨4294967295, [⟨[nested n, .null], false⟩]⟩

/-- The members of a set in the order in which they are declared. -/
private def declared (set : NativeSet) : List (String × Json) :=
  [("ttl", .nat set.ttl.toNat), ("resource_records", .array (set.records.map (·.toJson)))]

/-- Values of the greatest depth come back, and those of one more are refused. A set comes back
from its declared order as well. -/
theorem Config.ofText_render_nested :
    Config.ofText (nestedConfig 125).toJson.render = .ok (nestedConfig 125) ∧
      Config.ofText (nestedConfig 126).toJson.render = .error .json ∧
      NativeSet.ofText (nestedSet 123).toJson.render = .ok (nestedSet 123) ∧
      NativeSet.ofText (Json.object (declared (nestedSet 123))).render = .ok (nestedSet 123) ∧
      NativeSet.ofText (nestedSet 124).toJson.render = .error .json := by
  have hset : ∀ n, ∀ r ∈ (nestedSet n).records, ∀ v ∈ r.content, v.IsStored := by
    intro n
    simp only [nestedSet, List.forall_mem_cons]
    exact ⟨⟨isStored_nested n, ⟨.null, .null⟩, nofun⟩, nofun⟩
  have hlimit : (nestedConfig 125).provider.mayStand 1 = true ∧
      (nestedConfig 126).provider.mayStand 1 = false ∧ (nestedSet 123).mayStand = true ∧
      (nestedSet 124).mayStand = false := by
    decide +kernel
  have hconfig := fun n => (ofText_render.1 (nestedConfig n) (isStored_nested n)).1
  have hnative := fun n => (ofText_render.2 (nestedSet n) (hset n)).1
  have hstored : ∀ m ∈ declared (nestedSet 123), m.2.IsStored := by
    simp only [declared, List.forall_mem_cons]
    exact ⟨Json.isStored_nat (by decide),
      Json.isStored_array fun r hr => NativeRecord.isStored_toJson (hset 123 r hr), nofun⟩
  have hwritten : TextWrites (Json.object (declared (nestedSet 123))).render
      (nestedSet 123).toJson :=
    textWrites_members (by simp [declared]) hstored
  have hdeclared := (ofText_render.2 (nestedSet 123) (hset 123)).2 _ hwritten
  refine ⟨?_, ?_, ?_, ?_, ?_⟩
  · rw [hconfig, if_pos hlimit.1]
  · rw [hconfig, hlimit.2.1]
    rfl
  · rw [hnative, if_pos hlimit.2.2.1]
  · rw [hdeclared, hnative, if_pos hlimit.2.2.1]
  · rw [hnative, hlimit.2.2.2]
    rfl

end DnsReconcile
