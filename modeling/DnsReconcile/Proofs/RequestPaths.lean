import Mathlib.Data.Bool.AllAny
import DnsReconcile.GCore
import DnsReconcile.Proofs.AcceptedConfig
import DnsReconcile.Proofs.Qualification

/-!
The URLs that record sets are written to.

The URL of a record set is its zone, its name and its type behind the address of the API,
each as it is. An accepted name may hold any character of ASCII, so also a slash, which
makes the name two segments, and a question mark or a number sign, which ends the path. The
URL leads to the record set exactly if its name has none of the three
(`Domain.setUrl_hasSegments_iff`).
-/

namespace DnsReconcile

open Text

theorem length_splitOn {α : Type} [DecidableEq α] (a : α) (xs : List α) :
    (xs.splitOn a).length = xs.count a + 1 := by
  induction xs with
  | nil => rfl
  | cons x rest ih =>
    rw [List.splitOn_cons_eq_if_modifyHead, List.count_cons]
    by_cases hx : x = a
    · simp [hx, ih]
    · simp [hx, ih]

/-- Three joined segments are told apart again exactly if none holds the mark between them. -/
theorem splitOn_joined_iff {α : Type} [DecidableEq α] {a : α} {xs ys zs : List α} :
    (xs ++ a :: (ys ++ a :: zs)).splitOn a = [xs, ys, zs] ↔ a ∉ xs ∧ a ∉ ys ∧ a ∉ zs := by
  constructor
  · intro h
    have hlength := congrArg List.length h
    rw [length_splitOn, List.count_append, List.count_cons_self, List.count_append,
      List.count_cons_self] at hlength
    simp only [List.length_cons, List.length_nil] at hlength
    simp only [← List.count_eq_zero]
    omega
  · rintro ⟨hx, hy, hz⟩
    rw [List.splitOn_append_cons_self_of_not_mem hx, List.splitOn_append_cons_self_of_not_mem hy,
      List.splitOn_eq_singleton hz]

/-- Whether a URL leads to the segments: behind the address of the zones it is just these,
with a slash between each two, and has neither a query nor a fragment. -/
def HasSegments (baseUrl url : String) (segments : List String) : Prop :=
  ∃ rest : List Char, url.toList = (baseUrl ++ "/v2/zones/").toList ++ rest ∧
    '?' ∉ rest ∧ '#' ∉ rest ∧ rest.splitOn '/' = segments.map String.toList

/-- The characters that mean something else in a URL than in a name. -/
def urlMarks : List Char := ['/', '?', '#']

theorem RecordType.urlMark_notMem_text (t : RecordType) : ∀ c ∈ urlMarks, c ∉ t.text.toList := by
  cases t <;> exact List.all_iff_forall_prop.1 (by decide +kernel)

theorem Name.mem_body_iff {n : Name} {c : Char} (hc : c ≠ '.') :
    c ∈ n.body ↔ c ∈ n.text.toList := by
  rw [n.toList_text, List.mem_append, List.mem_singleton]
  exact ⟨.inl, fun h => h.resolve_right hc⟩

namespace GCore

variable (g : GCore)

theorem toList_setUrl (zone name : Name) (type : RecordType) :
    (g.setUrl zone.text name.text type).toList = (g.baseUrl ++ "/v2/zones/").toList ++
      (zone.body ++ '/' :: (name.body ++ '/' :: type.text.toList)) := by
  simp [setUrl, Name.withoutFinalDot_text, toString]

/-- A URL leads to the record set that it is made for exactly if neither the zone nor the
name holds a mark. -/
theorem setUrl_hasSegments_names_iff (zone name : Name) (type : RecordType) :
    HasSegments g.baseUrl (g.setUrl zone.text name.text type)
        [withoutFinalDot zone.text, withoutFinalDot name.text, type.text] ↔
      ∀ c ∈ urlMarks, c ∉ zone.body ∧ c ∉ name.body := by
  have hsegments : [withoutFinalDot zone.text, withoutFinalDot name.text, type.text].map
      String.toList = [zone.body, name.body, type.text.toList] := by
    simp [Name.withoutFinalDot_text]
  have htype : '/' ∉ type.text.toList ∧ '?' ∉ type.text.toList ∧ '#' ∉ type.text.toList := by
    simpa [urlMarks] using type.urlMark_notMem_text
  rw [HasSegments, toList_setUrl, hsegments]
  simp only [List.append_cancel_left_eq, exists_eq_left', splitOn_joined_iff]
  simp [urlMarks, htype]
  tauto

/-- Record sets of one zone have different URLs, and so have those of different zones if no
slash is in their names. -/
theorem setUrl_eq_iff {zone zone' name name' : Name} {type type' : RecordType}
    (h : zone = zone' ∨ '/' ∉ name.body ∧ '/' ∉ name'.body) :
    g.setUrl zone.text name.text type = g.setUrl zone'.text name'.text type' ↔
      zone = zone' ∧ name = name' ∧ type = type' := by
  refine ⟨fun hurl => ?_, fun ⟨hzone, hname, htype⟩ => by rw [hzone, hname, htype]⟩
  have hchars := congrArg String.toList hurl
  rw [toList_setUrl, toList_setUrl, List.append_cancel_left_eq, ← List.cons_append,
    ← List.append_assoc, ← List.cons_append, ← List.append_assoc] at hchars
  obtain ⟨hnames, htypes⟩ := append_cons_inj (type.urlMark_notMem_text '/' (by decide))
    (type'.urlMark_notMem_text '/' (by decide)) hchars
  have htype : type = type' := by
    have hread := RecordType.ofString_text type
    rw [String.toList_inj.1 htypes, RecordType.ofString_text] at hread
    exact (Except.ok.inj hread).symm
  rcases h with rfl | ⟨hname, hname'⟩
  · exact ⟨rfl, Name.ext_body (List.cons.inj (List.append_cancel_left hnames)).2, htype⟩
  · obtain ⟨hzones, hnames⟩ := append_cons_inj hname hname' hnames
    exact ⟨Name.ext_body hzones, Name.ext_body hnames, htype⟩

end GCore

namespace Domain

variable {d : Domain} {r : Record}

/-- What is no dot and not in the name of a desired record is not in its zone either. -/
private theorem notMem_zone_body (h : d.validate = .ok ()) (hr : r ∈ d.desiredRecords) {c : Char}
    (hc : c ≠ '.') (hname : c ∉ r.name.body) : c ∉ r.zone.body := by
  have hstands := standsIn h hr
  rw [hstands.zone]
  rcases hstands.within with hapex | hbelow
  · exact hapex ▸ hname
  · rw [Name.mem_body_iff hc] at hname ⊢
    exact fun hmem => hname (hbelow.mem (List.mem_cons_of_mem _ hmem))

/-- The URL of a desired record of an accepted domain leads to its record set exactly if its
name has no slash, question mark or number sign. Record sets of one zone never share a URL,
and those of different zones do not if no slash is in their names. -/
theorem setUrl_hasSegments_iff (h : d.validate = .ok ()) (hr : r ∈ d.desiredRecords) (g : GCore) :
    (HasSegments g.baseUrl (g.setUrl r.zone.text r.name.text r.type)
        [withoutFinalDot r.zone.text, withoutFinalDot r.name.text, r.type.text] ↔
      ∀ c ∈ urlMarks, c ∉ r.name.text.toList) ∧
    ∀ q : Record, r.zone = q.zone ∨ '/' ∉ r.name.text.toList ∧ '/' ∉ q.name.text.toList →
      (g.setUrl r.zone.text r.name.text r.type = g.setUrl q.zone.text q.name.text q.type ↔
        r.zone = q.zone ∧ r.label = q.label) := by
  have hmark : ∀ c ∈ urlMarks, c ≠ '.' := List.all_iff_forall_prop.1 (by decide)
  constructor
  · rw [GCore.setUrl_hasSegments_names_iff]
    constructor
    · intro hfree c hc hmem
      exact (hfree c hc).2 ((Name.mem_body_iff (hmark c hc)).2 hmem)
    · intro hfree c hc
      have hname : c ∉ r.name.body := mt (Name.mem_body_iff (hmark c hc)).1 (hfree c hc)
      exact ⟨notMem_zone_body h hr (hmark c hc) hname, hname⟩
  · intro q hapart
    rw [← Name.mem_body_iff (by decide), ← Name.mem_body_iff (by decide)] at hapart
    rw [g.setUrl_eq_iff hapart, Record.label, Record.label, Label.mk.injEq]

/-- A block of addresses below a zone, as in the delegation of a part of a reverse zone. -/
private def blockOwner : Domain where
  name := "example.com"
  records := [{ name := "www", data := .a ⟨192, 0, 2, 1⟩ },
    { name := "0/25", data := .a ⟨192, 0, 2, 2⟩ }]

private def upperZone : Domain where
  name := "a"
  records := [{ name := "q.a/a/q", data := .a ⟨192, 0, 2, 1⟩ }]

private def lowerZone : Domain where
  name := "a/q.a"
  records := [{ name := "@", data := .a ⟨192, 0, 2, 2⟩ }]

private def publicApi : GCore := ⟨"key", GCore.publicUrl⟩

private def wwwRecord : Record := .new "example.com" "www.example.com" 300 (.a ⟨192, 0, 2, 1⟩)

private def blockRecord : Record := .new "example.com" "0/25.example.com" 300 (.a ⟨192, 0, 2, 2⟩)

/-- A plain owner is found under its URL, and a block of addresses is not. -/
theorem setUrl_hasSegments_iff_block :
    blockOwner.validate = .ok () ∧ blockOwner.desiredRecords = [wwwRecord, blockRecord] ∧
      HasSegments GCore.publicUrl (publicApi.setUrl "example.com." "www.example.com." .a)
        ["example.com", "www.example.com", "A"] ∧
      ¬ HasSegments GCore.publicUrl (publicApi.setUrl "example.com." "0/25.example.com." .a)
        ["example.com", "0/25.example.com", "A"] := by
  have hvalid : blockOwner.validate = .ok () := by decide +kernel
  have hrecords : blockOwner.desiredRecords = [wwwRecord, blockRecord] := by decide +kernel
  have hwww := (setUrl_hasSegments_iff (r := wwwRecord) hvalid (by decide +kernel) publicApi).1
  have hblock := (setUrl_hasSegments_iff (r := blockRecord) hvalid (by decide +kernel) publicApi).1
  exact ⟨hvalid, hrecords, hwww.2 (List.all_iff_forall_prop.1 (by decide +kernel)),
    fun hleads => hblock.1 hleads '/' (by decide) (by decide +kernel)⟩

/-- The URL of a record set of an accepted domain has four segments behind the zones, and
record sets of two accepted domains share one. -/
theorem setUrl_astray :
    (blockOwner.validate = .ok () ∧ blockRecord ∈ blockOwner.desiredRecords ∧
      publicApi.setUrl "example.com." "0/25.example.com." .a =
        "https://api.gcore.com/dns/v2/zones/example.com/0/25.example.com/A" ∧
      ¬ HasSegments GCore.publicUrl (publicApi.setUrl "example.com." "0/25.example.com." .a)
        ["example.com", "0/25.example.com", "A"]) ∧
    upperZone.validate = .ok () ∧ lowerZone.validate = .ok () ∧
      ∃ r ∈ upperZone.desiredRecords, ∃ q ∈ lowerZone.desiredRecords, r.zone ≠ q.zone ∧
        publicApi.setUrl r.zone.text r.name.text r.type =
          publicApi.setUrl q.zone.text q.name.text q.type := by
  have hblock := publicApi.setUrl_hasSegments_names_iff blockRecord.zone blockRecord.name .a
  refine ⟨⟨by decide +kernel, by decide +kernel, by decide +kernel,
    fun hleads => (hblock.1 hleads '/' (by decide)).2 (by decide +kernel)⟩,
    by decide +kernel, by decide +kernel, ?_⟩
  decide +kernel

end Domain

end DnsReconcile
