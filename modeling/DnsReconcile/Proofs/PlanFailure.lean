import DnsReconcile.Proofs.Planning
import DnsReconcile.Proofs.RoundTrip

/-!
When a plan cannot be made.

Planning goes through the changes in the order of labels and ends with the error of the
first one that cannot be carried out (`Correction.plan_eq_error_iff`). A removal always can.
A change that writes a label cannot if nothing is desired under the label, which only
happens with changes that were found against other records, or if the desired records of
the label make no set (`Correction.plan_failure`).
-/

namespace DnsReconcile

namespace Capabilities

variable {capabilities : Capabilities}

theorem audit_eq_ok_iff {rs : List Record} :
    capabilities.audit rs = .ok () ↔ ∀ r ∈ rs, capabilities.check r = .ok () := by
  induction rs with
  | nil => simp [audit]
  | cons r rest ih =>
    rw [audit, Except.check_eq_ok_iff, List.forall_mem_cons, ih]

theorem exists_of_check_error {r : Record} {e : Error} (h : capabilities.check r = .error e) :
    ∃ m, e = .unsupported m := by
  unfold check at h
  split at h
  · rename_i reason _
    cases h
    cases reason <;> exact ⟨_, rfl⟩
  · cases h

end Capabilities

namespace NativeSet

variable {capabilities : Capabilities} {l : Label} {ttl : UInt32} {rs : List Record} {e : Error}

/-- The error for a record whose time to live is not that of its set. -/
def mixedTtls (l : Label) (ttl found : UInt32) : Error :=
  .unsupported (s!"{l.text}: all records in a set must share one TTL " ++
    s!"(found {ttl.toNat} and {found.toNat})")

/-- The error with which a record cannot stand in the set of its label, if it cannot. -/
def misfit? (capabilities : Capabilities) (ttl : UInt32) (r : Record) : Option Error :=
  if r.ttl ≠ ttl then some (mixedTtls r.label ttl r.ttl)
  else match capabilities.check r with
    | .error e => some e
    | .ok () => none

/-- The error with which records of one label make no set, if they make none: that of the
first one that does not fit in with the first of all. -/
def misfitAmong? (capabilities : Capabilities) (rs : List Record) : Option Error :=
  rs.head?.bind (fun first => rs.findSome? (misfit? capabilities first.ttl))

theorem exists_of_misfit? {r : Record} (h : misfit? capabilities ttl r = some e) :
    ∃ m, e = .unsupported m := by
  unfold misfit? at h
  split at h
  · cases h
    exact ⟨_, rfl⟩
  · split at h
    · rename_i hcheck
      cases h
      exact Capabilities.exists_of_check_error hcheck
    · cases h

/-- Of a record that passes the audit only the time to live can be wrong. -/
theorem misfit?_of_check {r : Record} (hcheck : capabilities.check r = .ok ())
    (h : misfit? capabilities ttl r = some e) : r.ttl ≠ ttl ∧ e = mixedTtls r.label ttl r.ttl := by
  rw [misfit?, hcheck] at h
  split at h
  · exact ⟨‹_›, (Option.some.inj h).symm⟩
  · cases h

theorem writeMembers_eq_error_iff (hlabel : ∀ r ∈ rs, r.label = l) :
    writeMembers capabilities l ttl rs = .error e ↔
      rs.findSome? (misfit? capabilities ttl) = some e := by
  induction rs with
  | nil => simp [writeMembers]
  | cons r rest ih =>
    obtain ⟨hr, hrest⟩ := List.forall_mem_cons.1 hlabel
    have hown : ¬ r.label ≠ l := not_not.2 hr
    rw [writeMembers, if_neg hown, List.findSome?_cons, misfit?, hr]
    by_cases httl : r.ttl = ttl
    · have hsame : ¬ r.ttl ≠ ttl := not_not.2 httl
      rw [if_neg hsame, if_neg hsame]
      cases hcheck : capabilities.check r with
      | error reason => simp [bind, Except.bind]
      | ok u =>
        rw [← ih hrest]
        cases hwritten : writeMembers capabilities l ttl rest <;>
          simp [bind, Except.bind, pure, Except.pure]
    · rw [if_pos httl, if_pos httl]
      simp [mixedTtls, bind, Except.bind, throw, throwThe, MonadExceptOf.throw]

/-- Records of one label make no set for the sake of the first that does not fit in. -/
theorem ofRecords_eq_error_iff (hlabel : ∀ r ∈ rs, r.label = l) :
    ofRecords capabilities rs = .error e ↔ misfitAmong? capabilities rs = some e := by
  cases rs with
  | nil => simp [ofRecords, misfitAmong?]
  | cons first rest =>
    have hfirst : first.label = l := hlabel first List.mem_cons_self
    rw [misfitAmong?, List.head?_cons, Option.bind_some, ← writeMembers_eq_error_iff hlabel,
      ofRecords, hfirst, Except.bind_eq_error_iff]
    simp [pure, Except.pure]

theorem ofRecords_eq_none_iff : ofRecords capabilities rs = .ok none ↔ rs = [] := by
  cases rs with
  | nil => simp [ofRecords]
  | cons r rest =>
    cases hwritten : writeMembers capabilities r.label r.ttl (r :: rest) <;>
      simp [ofRecords, hwritten, bind, Except.bind, pure, Except.pure]

end NativeSet

/-- The desired records of a label can be written as its set: there are some, they share one
time to live, and each can be hosted. -/
structure Hostable (capabilities : Capabilities) (rs : List Record) (l : Label) : Prop where
  desired : ∃ r ∈ rs, r.label = l
  oneTtl : ∀ q ∈ rs, ∀ r ∈ rs, q.label = l → r.label = l → q.ttl = r.ttl
  accepted : ∀ r ∈ rs, r.label = l → capabilities.check r = .ok ()

theorem hostable_iff {capabilities : Capabilities} {rs : List Record} {l : Label} :
    Hostable capabilities rs l ↔
      ∃ set, NativeSet.ofRecords capabilities (recordsAt l rs) = .ok (some set) := by
  simp only [NativeSet.ofRecords_eq_ok_some_iff, recordsAt_ne_nil]
  constructor
  · rintro ⟨⟨q, hq, hlabel⟩, httl, hcheck⟩
    refine ⟨⟨q.ttl, (recordsAt l rs).map NativeSet.member⟩, ⟨q, hq, hlabel⟩, rfl, l, ?_⟩
    intro r hr
    obtain ⟨hmem, hr⟩ := mem_recordsAt.1 hr
    exact ⟨hr, httl r hmem q hq hr hlabel, hcheck r hmem hr⟩
  · rintro ⟨set, hsome, -, _, hwritable⟩
    have hmember : ∀ r ∈ rs, r.label = l → NativeSet.Writable capabilities _ set.ttl r :=
      fun r hr hlabel => hwritable r (mem_recordsAt.2 ⟨hr, hlabel⟩)
    refine ⟨hsome, fun q hq r hr hql hrl => ?_, fun r hr hlabel => (hmember r hr hlabel).check⟩
    rw [(hmember q hq hql).ttl, (hmember r hr hrl).ttl]

def ChangeKind.verb : ChangeKind → String
  | added => "create"
  | modified => "update"
  | removed => "delete"

namespace Correction

variable {capabilities : Capabilities} {desired : Snapshot} {e : Error}

def obstacle? (desired : Snapshot) (capabilities : Capabilities) (f : Label × Change) :
    Option Error :=
  if removes f then none
  else match NativeSet.ofRecords capabilities (desired.members f.1) with
    | .error e => some e
    | .ok none => some (.planningInvariant f.1.text f.2.kind.verb)
    | .ok (some _) => none

private theorem writing?_cases (k : ChangeKind) :
    (k = .removed ∧ writing? k = none) ∨
      ∃ action, k ≠ .removed ∧ writing? k = some action ∧ (action default).verb = k.verb := by
  cases k with
  | added => exact .inr ⟨.create, by decide, rfl, rfl⟩
  | removed => exact .inl ⟨rfl, rfl⟩
  | modified => exact .inr ⟨.update, by decide, rfl, rfl⟩

theorem writes_eq_error_iff (zone : Name) {es : List (Label × Change)} :
    writes zone desired capabilities es = .error e ↔
      es.findSome? (obstacle? desired capabilities) = some e := by
  induction es with
  | nil => simp [writes]
  | cons f rest ih =>
    obtain ⟨l, c⟩ := f
    rw [List.findSome?_cons, obstacle?]
    rcases writing?_cases c.kind with ⟨hkind, hw⟩ | ⟨action, hkind, hw, hverb⟩
    · have hremoves : removes (l, c) = true := by simp [removes, hkind]
      simp only [writes, hw, hremoves, if_true]
      exact ih
    · simp only [writes, hw, removes, hkind, decide_false, Bool.false_eq_true, if_false, hverb]
      rcases NativeSet.ofRecords capabilities (desired.members l) with err | _ | set
      · simp [bind, Except.bind]
      · simp [bind, Except.bind, throw, throwThe, MonadExceptOf.throw]
      · simp only [← ih]
        cases writes zone desired capabilities rest <;>
          simp [bind, Except.bind, pure, Except.pure]

/-- Planning ends with the error of the first change that cannot be carried out. -/
theorem plan_eq_error_iff {zone : String} {changes : Changeset} :
    plan zone desired changes capabilities = .error e ↔
      changes.changes.findSome? (obstacle? desired capabilities) = some e := by
  rw [← writes_eq_error_iff (.ofString zone), plan, Except.bind_eq_error_iff]
  simp [pure, Except.pure]

section Group

variable {rs : List Record} {f : Label × Change}

/-- A change can be carried out if it removes its label or the label can be written. -/
theorem obstacle?_group_eq_none_iff :
    obstacle? (.group rs) capabilities f = none ↔
      (f.2.kind ≠ .removed → Hostable capabilities rs f.1) := by
  rw [hostable_iff, obstacle?, Snapshot.members_group]
  by_cases hkind : f.2.kind = .removed
  · simp [removes, hkind]
  · rcases NativeSet.ofRecords capabilities (recordsAt f.1 rs) with err | _ | set <;>
      simp [removes, hkind]

/-- A change cannot be carried out for the want of desired records or for the sake of the
first that does not fit in. -/
theorem obstacle?_group_eq_some_iff :
    obstacle? (.group rs) capabilities f = some e ↔
      f.2.kind ≠ .removed ∧
        ((∀ r ∈ rs, r.label ≠ f.1) ∧ e = .planningInvariant f.1.text f.2.kind.verb ∨
          NativeSet.misfitAmong? capabilities (recordsAt f.1 rs) = some e) := by
  have hlabel : ∀ r ∈ recordsAt f.1 rs, r.label = f.1 := fun r hr => (mem_recordsAt.1 hr).2
  have hnone : NativeSet.ofRecords capabilities (recordsAt f.1 rs) = .ok none ↔
      ∀ r ∈ rs, r.label ≠ f.1 := by
    rw [NativeSet.ofRecords_eq_none_iff, ← not_iff_not, ← ne_eq, recordsAt_ne_nil]
    simp
  rw [← NativeSet.ofRecords_eq_error_iff hlabel, ← hnone, obstacle?, Snapshot.members_group]
  by_cases hkind : f.2.kind = .removed
  · simp [removes, hkind]
  · rcases NativeSet.ofRecords capabilities (recordsAt f.1 rs) with err | _ | set <;>
      simp [removes, hkind, eq_comm]

end Group

/-- Changes can be planned exactly if every label that they write can be written. -/
theorem exists_plan_group_iff {zone : String} {rs : List Record} {changes : Changeset} :
    (∃ cs, plan zone (.group rs) changes capabilities = .ok cs) ↔
      ∀ l c, (l, c) ∈ changes.changes → c.kind ≠ .removed → Hostable capabilities rs l := by
  have hok : (∃ cs, plan zone (.group rs) changes capabilities = .ok cs) ↔
      ∀ e, plan zone (.group rs) changes capabilities ≠ .error e := by
    cases plan zone (.group rs) changes capabilities <;> simp
  simp only [hok, ne_eq, plan_eq_error_iff, ← Option.eq_none_iff_forall_ne_some,
    List.findSome?_eq_none_iff, obstacle?_group_eq_none_iff]
  exact ⟨fun h l c hmem => h (l, c) hmem, fun h f hmem => h f.1 f.2 hmem⟩

/-- The changes cannot be carried out for the sake of a label, which is the first in the order
of labels that they write and that cannot be written. -/
structure FailsAt (capabilities : Capabilities) (rs : List Record) (changes : Changeset)
    (l : Label) (c : Change) (e : Error) : Prop where
  changed : (l, c) ∈ changes.changes
  written : c.kind ≠ .removed
  first : ∀ m d, (m, d) ∈ changes.changes → compare m l = .lt → d.kind ≠ .removed →
    Hostable capabilities rs m
  /-- Nothing is desired under the label, or a desired record there does not fit in. -/
  reason : (∀ r ∈ rs, r.label ≠ l) ∧ e = .planningInvariant l.text c.kind.verb ∨
    (∃ r ∈ rs, r.label = l) ∧ (∃ m, e = .unsupported m) ∧
      NativeSet.misfitAmong? capabilities (recordsAt l rs) = some e

/-- When planning with the desired records `rs` fails, and how. -/
structure PlanFailures (zone : String) (capabilities : Capabilities) (rs : List Record) : Prop where
  /-- Changes, also those between other snapshots, can be planned exactly if every label that
  they write can be written. -/
  succeeds : ∀ d o : Snapshot,
    (∃ cs, plan zone (.group rs) (.diff d o) capabilities = .ok cs) ↔
      ∀ l c, (l, c) ∈ (Changeset.diff d o).changes → c.kind ≠ .removed →
        Hostable capabilities rs l
  fails : ∀ (d o : Snapshot) (e : Error),
    plan zone (.group rs) (.diff d o) capabilities = .error e ↔
      ∃ l c, FailsAt capabilities rs (.diff d o) l c e
  /-- Changes towards the desired records themselves never lack records. -/
  own : ∀ (o : Snapshot) (label verb : String),
    plan zone (.group rs) (.diff (.group rs) o) capabilities ≠
      .error (.planningInvariant label verb)
  /-- If the records pass the audit, those of a label that is written can only have different
  times to live. -/
  audited : capabilities.audit rs = .ok () → ∀ (o : Snapshot) (e : Error),
    plan zone (.group rs) (.diff (.group rs) o) capabilities = .error e →
      ∃ l c, FailsAt capabilities rs (.diff (.group rs) o) l c e ∧
        ∃ q ∈ rs, ∃ r ∈ rs, q.label = l ∧ r.label = l ∧ q.ttl ≠ r.ttl ∧
          e = NativeSet.mixedTtls l q.ttl r.ttl
  /-- Comparing two lists of records is planning with changes of this kind. -/
  computed : ∀ observed, compute zone rs observed capabilities =
    plan zone (.group rs) (.diff (.group rs) (.group observed)) capabilities

private theorem exists_of_misfitAmong? {rs : List Record}
    (h : NativeSet.misfitAmong? capabilities rs = some e) :
    ∃ first ∈ rs, ∃ r ∈ rs, NativeSet.misfit? capabilities first.ttl r = some e := by
  obtain ⟨first, hfirst, h⟩ := Option.bind_eq_some_iff.1 h
  obtain ⟨r, hr, hmisfit⟩ := List.exists_of_findSome?_eq_some h
  exact ⟨first, List.mem_of_mem_head? hfirst, r, hr, hmisfit⟩

/-- Planning ends with the error of the first label in the order of labels that the changes
write and that cannot be written. -/
theorem plan_group_eq_error_iff {zone : String} {rs : List Record} {d o : Snapshot} :
    plan zone (.group rs) (.diff d o) capabilities = .error e ↔
      ∃ l c, FailsAt capabilities rs (.diff d o) l c e := by
  rw [plan_eq_error_iff, (Changeset.ascending_diff d o).findSome?_eq_some_iff]
  simp only [obstacle?_group_eq_some_iff, obstacle?_group_eq_none_iff]
  constructor
  · rintro ⟨⟨l, c⟩, hmem, ⟨hkind, hreason⟩, hfirst⟩
    refine ⟨l, c, hmem, hkind, fun m d hm hlt => hfirst (m, d) hm hlt, ?_⟩
    rcases hreason with hmissing | hmisfit
    · exact .inl hmissing
    · obtain ⟨q, hq, r, -, hr⟩ := exists_of_misfitAmong? hmisfit
      obtain ⟨hmem, hlabel⟩ := mem_recordsAt.1 hq
      exact .inr ⟨⟨q, hmem, hlabel⟩, NativeSet.exists_of_misfit? hr, hmisfit⟩
  · rintro ⟨l, c, hmem, hkind, hfirst, hreason⟩
    refine ⟨(l, c), hmem, ⟨hkind, ?_⟩, fun g hg hlt => hfirst g.1 g.2 hg hlt⟩
    exact hreason.imp_right (fun h => h.2.2)

/-- Changes towards some records write only labels of theirs. -/
private theorem exists_label_of_diff {rs : List Record} {o : Snapshot} {l : Label} {c : Change}
    (hmem : (l, c) ∈ (Changeset.diff (.group rs) o).changes) (hkind : c.kind ≠ .removed) :
    ∃ r ∈ rs, r.label = l := by
  have hbetween := Changeset.mem_diff.1 hmem
  rw [Snapshot.get?_group] at hbetween
  split at hbetween
  · exfalso
    cases ho : o.groups.get? l with
    | none => simp [Change.between, ho] at hbetween
    | some old =>
      simp only [Change.between, ho, Option.some.injEq] at hbetween
      exact hkind (hbetween ▸ rfl)
  · rename_i hne
    exact recordsAt_ne_nil.1 hne

/-- Changes towards some records fail for the sake of a record that does not fit in. -/
theorem FailsAt.of_own {rs : List Record} {o : Snapshot} {l : Label} {c : Change}
    (h : FailsAt capabilities rs (.diff (.group rs) o) l c e) :
    (∃ m, e = .unsupported m) ∧
      NativeSet.misfitAmong? capabilities (recordsAt l rs) = some e := by
  rcases h.reason with ⟨hnone, -⟩ | ⟨-, hreason⟩
  · obtain ⟨r, hr, hlabel⟩ := exists_label_of_diff h.changed h.written
    exact absurd hlabel (hnone r hr)
  · exact hreason

/-- Planning fails exactly if some label that the changes write cannot be written, with the
error of the first such label. -/
theorem plan_failure (zone : String) (capabilities : Capabilities) (rs : List Record) :
    PlanFailures zone capabilities rs := by
  refine ⟨fun d o => exists_plan_group_iff, fun d o e => plan_group_eq_error_iff, ?_, ?_,
    fun observed => compute_eq_plan zone rs observed capabilities⟩
  · intro o label verb h
    obtain ⟨l, c, hfails⟩ := plan_group_eq_error_iff.1 h
    obtain ⟨⟨m, hm⟩, -⟩ := hfails.of_own
    cases hm
  · intro haudit o e h
    obtain ⟨l, c, hfails⟩ := plan_group_eq_error_iff.1 h
    obtain ⟨q, hq, r, hr, hmisfit⟩ := exists_of_misfitAmong? hfails.of_own.2
    obtain ⟨hqmem, hql⟩ := mem_recordsAt.1 hq
    obtain ⟨hrmem, hrl⟩ := mem_recordsAt.1 hr
    obtain ⟨httl, he⟩ :=
      NativeSet.misfit?_of_check (Capabilities.audit_eq_ok_iff.1 haudit r hrmem) hmisfit
    exact ⟨l, c, hfails, q, hqmem, r, hrmem, hql, hrl, httl.symm, hrl ▸ he⟩

private def mixedMail : List Record :=
  [.new "example.com" "www.example.com" 300 (.a ⟨1, 2, 3, 4⟩),
    .new "example.com" "mail.example.com" 61 (.mx 10 "mx1"),
    .new "example.com" "mail.example.com" 60 (.mx 20 "mx2")]

private def foreign : Snapshot :=
  .group [.new "example.com" "ftp.example.com" 300 (.a ⟨1, 2, 3, 4⟩)]

private def errorOf? {α : Type} : Except Error α → Option Error
  | .error e => some e
  | .ok _ => none

private theorem eq_error_of_errorOf? {α : Type} {result : Except Error α}
    (h : errorOf? result = some e) : result = .error e := by
  unfold errorOf? at h
  split at h
  · rw [Option.some.inj h]
  · cases h

/-- Changes that were found against other records lack the desired ones, and records that
pass the audit have two times to live under one label. -/
theorem plan_failure_mixed :
    (∃ l c, FailsAt {} mixedMail (.diff foreign .empty) l c
      (.planningInvariant "ftp.example.com. A" "create")) ∧
    ({} : Capabilities).audit mixedMail = .ok () ∧
    ∃ l c, FailsAt {} mixedMail (.diff (.group mixedMail) (.group [])) l c
      (.unsupported
        "mail.example.com. MX: all records in a set must share one TTL (found 60 and 61)") := by
  have hforeign : plan "example.com" (.group mixedMail) (.diff foreign .empty) {} =
      .error (.planningInvariant "ftp.example.com. A" "create") :=
    eq_error_of_errorOf? (by decide +kernel)
  have hmixed : compute "example.com" mixedMail [] {} = .error (.unsupported
      "mail.example.com. MX: all records in a set must share one TTL (found 60 and 61)") :=
    eq_error_of_errorOf? (by decide +kernel)
  have hfailures := plan_failure "example.com" {} mixedMail
  rw [hfailures.computed] at hmixed
  have haudit : ({} : Capabilities).audit mixedMail = .ok () := by decide +kernel
  obtain ⟨l, c, hfails, -⟩ := hfailures.audited haudit _ _ hmixed
  exact ⟨(hfailures.fails _ _ _).1 hforeign, haudit, l, c, hfails⟩

end Correction

end DnsReconcile
