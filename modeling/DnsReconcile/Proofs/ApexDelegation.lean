import DnsReconcile.Proofs.PlanRun
import DnsReconcile.Proofs.RoundTrip

/-!
The delegation of a zone survives every plan.

No plan deletes the apex name servers, whatever the provider answers. A zone that
declares none of its own has them left alone, unless the provider reports some: then
they are written exactly as reported, each name server once, with the time to live
that was observed (`plan_apex_safe`).
-/

namespace DnsReconcile

open Reconciler (sides apexLabel observedTtl apexRecords AddsNameservers LeavesApex)

variable {σ : Type}

private def apexRecord (zone : String) (ttl : UInt32) (host : String) : Record :=
  .new zone zone ttl (.ns host)

private theorem apexRecord_fqdn (zone : String) (ttl : UInt32) (host : String) :
    apexRecord zone ttl (fqdn host) = apexRecord zone ttl host := by
  simp [apexRecord, Record.new, RecordData.canonical, RecordData.mapHost, fqdn_fqdn]

private theorem compare_ns (a b : String) :
    compare (RecordData.ns a) (RecordData.ns b) = compare a b := by
  change RecordData.order _ _ = _
  simp only [RecordData.order, compareLex, compareOn, RecordData.type, RecordData.numbers,
    RecordData.texts, Std.ReflOrd.compare_self, Ordering.then]
  simp

/-- Apex name servers are ordered as their hosts are. -/
private theorem compare_apexRecord (zone : String) (ttl : UInt32) (a b : String) :
    compare (apexRecord zone ttl a) (apexRecord zone ttl b) = compare (fqdn a) (fqdn b) := by
  change compareLex (compareOn Record.zone) (compareLex (compareOn Record.name)
    (compareLex (compareOn (fun r => r.ttl.toNat)) (compareOn Record.data))) _ _ = _
  simp only [compareLex, compareOn, apexRecord, Record.new, Std.ReflOrd.compare_self,
    Ordering.then]
  exact compare_ns (fqdn a) (fqdn b)

/-- The desired records of the apex name servers: one for each of the distinct
hosts, in their order. -/
private theorem recordsAt_apexRecords {zone : String} {desired : List Record}
    (hnone : ∀ r ∈ desired, r.label ≠ apexLabel zone) (ttl : UInt32) (nameservers : List String) :
    recordsAt (apexLabel zone) (desired ++ apexRecords zone ttl nameservers) =
      (SortedList.ofList (nameservers.map fqdn)).map (apexRecord zone ttl) := by
  have hcanonical : ∀ host ∈ SortedList.ofList (nameservers.map fqdn), fqdn host = host := by
    intro host hhost
    obtain ⟨ns, -, rfl⟩ := List.mem_map.1 (SortedList.mem_ofList.1 hhost)
    exact fqdn_fqdn ns
  have hascending : Ascending
      ((SortedList.ofList (nameservers.map fqdn)).map (apexRecord zone ttl)) := by
    apply List.pairwise_map.2
    refine (SortedList.ascending_ofList _).imp_of_mem (fun {a b} ha hb hlt => ?_)
    rw [compare_apexRecord, hcanonical a ha, hcanonical b hb]
    exact hlt
  apply (SortedList.ascending_ofList _).eq_of_mem_iff hascending
  intro r
  rw [SortedList.mem_ofList, List.mem_filter, decide_eq_true_iff, List.mem_append]
  simp only [apexRecords, List.mem_map, SortedList.mem_ofList, exists_exists_and_eq_and,
    apexRecord_fqdn]
  constructor
  · rintro ⟨hr | hadded, hlabel⟩
    · exact absurd hlabel (hnone r hr)
    · exact hadded
  · rintro ⟨ns, hns, rfl⟩
    exact ⟨.inr ⟨ns, hns, rfl⟩, rfl⟩

section Plan

variable {zone : String} {capabilities : Capabilities} {nameservers : List String}
  {desired observed : List Record} {cs : List Correction} {c : Correction}

/-- An apex label that is observed and compared is desired as well. -/
private theorem apex_not_removed
    (h : Correction.ExactPlan zone (sides zone capabilities nameservers desired observed).1
      (sides zone capabilities nameservers desired observed).2 capabilities cs)
    (hc : c ∈ cs) (hapex : c.label = apexLabel zone) : c.kind ≠ .removed := by
  have hkept : ¬ LeavesApex zone capabilities nameservers desired :=
    fun hleaves => Reconciler.not_leavesApex_of_target h hc ⟨hleaves, hapex⟩
  rw [← h.mem_desired_iff hc, hapex, Reconciler.mem_labels_desired]
  rcases Reconciler.sides_cases zone capabilities nameservers desired with
    hdeclared | ⟨-, hadds⟩ | hleaves
  · exact .inl hdeclared
  · exact .inr ⟨rfl, hadds⟩
  · exact absurd hleaves hkept

/-- Name servers that the provider adds are written once each, in the native form
of their hosts. -/
private theorem apex_written
    (h : Correction.ExactPlan zone (sides zone capabilities nameservers desired observed).1
      (sides zone capabilities nameservers desired observed).2 capabilities cs)
    (hc : c ∈ cs) (hapex : c.label = apexLabel zone)
    (hnone : ∀ r ∈ desired, r.label ≠ apexLabel zone)
    (hadds : AddsNameservers capabilities nameservers) :
    ∃ set, (c.operation.action = .create set ∨ c.operation.action = .update set) ∧
      set.ttl = observedTtl zone observed ∧
      set.records = (SortedList.ofList (nameservers.map fqdn)).map
        (fun host => { content := [.string (withoutFinalDot host)], enabled := true }) := by
  obtain ⟨set, hset⟩ : ∃ set, c.operation.action = .create set ∨
      c.operation.action = .update set := by
    cases haction : c.operation.action with
    | create set => exact ⟨set, .inl rfl⟩
    | update set => exact ⟨set, .inr rfl⟩
    | delete =>
      refine absurd ?_ (apex_not_removed h hc hapex)
      rw [Correction.kind, haction]
      rfl
  have hwritten : c.operation.action.set? = some set := by
    rcases hset with hset | hset <;> rw [hset] <;> rfl
  have hpayload := h.payload c hc set hwritten
  rw [hapex, Reconciler.sides_of_adds hnone hadds, recordsAt_apexRecords hnone,
    NativeSet.ofRecords_eq_ok_some_iff] at hpayload
  obtain ⟨hne, hrecords, label, hwritable⟩ := hpayload
  refine ⟨set, hset, ?_, ?_⟩
  · obtain ⟨r, hr⟩ := List.exists_mem_of_ne_nil _ hne
    obtain ⟨host, -, rfl⟩ := List.mem_map.1 hr
    exact (hwritable _ hr).ttl.symm
  · rw [hrecords, List.map_map]
    apply List.map_congr_left
    intro host hhost
    obtain ⟨ns, -, rfl⟩ := List.mem_map.1 (SortedList.mem_ofList.1 hhost)
    simp [NativeSet.member, apexRecord, Record.new, RecordData.canonical, RecordData.mapHost,
      Content.write, fqdn_fqdn]

end Plan

/-- The delegation is safe. Whatever a provider answers, no plan deletes the apex
name servers. If the domain declares none, they are left alone when the provider
reports none or hosts no such records, and else a correction writes exactly the
reported ones, each of the distinct names once and without its final dot, with the
time to live of the first that was observed, or 300 when none was. -/
theorem plan_apex_safe {r : Reconciler σ} {domain : Domain} {s t : Session σ}
    {cs : List Correction} (h : r.plan domain s = (.ok cs, t)) :
    (∀ c ∈ cs, c.label = apexLabel domain.zone.text → c.kind ≠ .removed) ∧
    ((∀ rec ∈ domain.desiredRecords, rec.label ≠ apexLabel domain.zone.text) →
      ∃ observed u nameservers, r.observe domain.zone.text s = (.ok observed, u) ∧
        (r.provider.answer (.nameservers domain.zone.text) u.provider).1 = .ok nameservers ∧
        (nameservers = [] ∨ r.provider.capabilities.supports .ns = false →
          ∀ c ∈ cs, c.label ≠ apexLabel domain.zone.text) ∧
        (nameservers ≠ [] ∧ r.provider.capabilities.supports .ns = true →
          ∀ c ∈ cs, c.label = apexLabel domain.zone.text →
            ∃ set, (c.operation.action = .create set ∨ c.operation.action = .update set) ∧
              set.ttl = ((observed.find? (fun rec => rec.label = apexLabel domain.zone.text)).map
                Record.ttl).getD 300 ∧
              set.records = (SortedList.ofList (nameservers.map fqdn)).map (fun host =>
                { content := [.string (withoutFinalDot host)], enabled := true }))) := by
  obtain ⟨observed, u, nameservers, hobserved, hasked, hcompute⟩ :=
    Reconciler.exists_of_plan_eq_ok h
  have hexact := Correction.ExactPlan.of_compute hcompute
  refine ⟨fun c hc hapex => apex_not_removed hexact hc hapex, fun hnone => ?_⟩
  refine ⟨observed, u, nameservers, hobserved, hasked hnone, fun hleft c hc hapex => ?_,
    fun hadds c hc hapex => apex_written hexact hc hapex hnone hadds⟩
  have hadds : ¬ AddsNameservers r.provider.capabilities nameservers := by
    rintro ⟨hsome, hsupports⟩
    rcases hleft with hnil | hunsupported
    · exact hsome hnil
    · rw [hsupports] at hunsupported
      cases hunsupported
  exact Reconciler.not_leavesApex_of_target hexact hc ⟨⟨hnone, hadds⟩, hapex⟩

/-- A provider that lists the apex name servers twice, in two spellings and with
different answers to each. -/
private def erratic : Provider Unit where
  name := "erratic"
  capabilities := {}
  answer := fun c s => match c with
    | .zoneExists _ => (.ok true, s)
    | .list _ => (.ok [⟨"EXAMPLE.com", "ns"⟩, ⟨"example.com.", "NS"⟩], s)
    | .get _ name _ =>
      if name = "EXAMPLE.com" then
        (.ok ⟨3600, [{ content := [.string "old.example.net"] }]⟩, s)
      else (.ok ⟨60, [{ content := [.string "ns1.example.net"] }]⟩, s)
    | .nameservers _ => (.ok ["NS2.example.org", "ns1.example.net.", "ns2.example.org."], s)
    | .createZone _ | .create .. | .update .. | .delete .. => (.ok (), s)

private def bareZone : Domain := { name := "Example.com" }

private def inDoubt : Reconciler Unit :=
  { provider := erratic, config := {}, scheduler := .virtualTime }

/-- Name servers that are reported in several spellings are written once each, with
the time to live that is observed first. -/
theorem plan_apex_safe_erratic :
    ∃ c t set, inDoubt.plan bareZone (.start ()) = (.ok [c], t) ∧
      c.label = apexLabel "example.com." ∧ c.kind = .modified ∧
      c.operation.action.set? = some set ∧ set.ttl = 3600 ∧
      set.records = [{ content := [.string "ns1.example.net"] },
        { content := [.string "ns2.example.org"] }] := by
  have hone : (inDoubt.plan bareZone (.start ())).1.toOption.map
      (List.map (fun c => (c.label, c.kind))) =
        some [(apexLabel bareZone.zone.text, .modified)] := by
    decide +kernel
  generalize hplan : inDoubt.plan bareZone (.start ()) = first at hone
  obtain ⟨result, t⟩ := first
  cases result with
  | error e => cases hone
  | ok cs =>
    obtain ⟨c, rfl, hc⟩ := List.map_eq_singleton_iff.1 (Option.some.inj hone)
    obtain ⟨hlabel, hkind⟩ := Prod.mk.inj hc
    obtain ⟨-, hundeclared⟩ := plan_apex_safe hplan
    obtain ⟨observed, u, nameservers, hobserved, hasked, -, hwritten⟩ :=
      hundeclared (by simp [bareZone, Domain.desiredRecords])
    obtain rfl := Except.ok.inj hasked
    obtain ⟨set, haction, httl, hrecords⟩ :=
      hwritten ⟨by decide, rfl⟩ c (List.mem_singleton.2 rfl) hlabel
    have hhosts : SortedList.ofList (["NS2.example.org", "ns1.example.net.",
        "ns2.example.org."].map fqdn) = ["ns1.example.net.", "ns2.example.org."] := by
      decide +kernel
    have hfirst : (inDoubt.observe bareZone.zone.text (.start ())).1.toOption.map (fun observed =>
        ((observed.find? (fun rec => rec.label = apexLabel bareZone.zone.text)).map
          Record.ttl).getD 300) = some 3600 := by
      decide +kernel
    rw [hobserved] at hfirst
    rw [hhosts, List.map_cons, List.map_cons, List.map_nil,
      show withoutFinalDot "ns1.example.net." = "ns1.example.net" by decide +kernel,
      show withoutFinalDot "ns2.example.org." = "ns2.example.org" by decide +kernel] at hrecords
    refine ⟨c, t, set, rfl, ?_, hkind, ?_, httl.trans (Option.some.inj hfirst), hrecords⟩
    · exact hlabel.trans (by decide +kernel)
    · rcases haction with haction | haction <;> rw [haction] <;> rfl

end DnsReconcile
