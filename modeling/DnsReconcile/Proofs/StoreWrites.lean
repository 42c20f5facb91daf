import DnsReconcile.Correction
import DnsReconcile.Proofs.Ascending
import DnsReconcile.Store

/-!
What a write does to a store.

In a zone that exists, the answer to a write is determined by the contents of the
zone: `Operation.refusal?` is the error if they refuse it, and there is none
exactly if they permit it (`refusal?_eq_none_iff`). Every outcome is read off it,
the errors with their texts included (`perform_of_contents`). A write that
succeeds changes the record set at its own label and nothing else (`get?_effect`),
so there are three things that a call can make of a store (`Step`, `step_answer`).
None of them removes a zone, or gives a CNAME company that is alone under its name
(`Hosts.step`, `Coexists.step`).
-/

namespace DnsReconcile

namespace Operation

def Permitted (o : Operation) (m : Contents) : Prop :=
  match o.action with
  | .create _ => o.label ∉ m.keys ∧
      ∀ k ∈ m.keys, k.name = o.label.name → Store.clash o.type k.type = false
  | .update _ | .delete => o.label ∈ m.keys

def effect (o : Operation) (m : Contents) : Contents :=
  match o.action.set? with
  | some set => m.insert o.label set
  | none => m.erase o.label

theorem get?_effect (o : Operation) (m : Contents) (l : Label) :
    (o.effect m).get? l = if l = o.label then o.action.set? else m.get? l := by
  unfold effect
  cases o.action.set? with
  | some set => exact SortedMap.get?_insert m o.label l set
  | none => exact SortedMap.get?_erase m o.label l

theorem mem_keys_effect {o : Operation} {m : Contents} {l : Label} :
    l ∈ (o.effect m).keys ↔ if l = o.label then o.action.set?.isSome = true else l ∈ m.keys := by
  rw [SortedMap.mem_keys_iff, SortedMap.mem_keys_iff]
  simp only [get?_effect]
  split
  · exact Option.isSome_iff_exists.symm
  · rfl

end Operation

namespace Store

theorem clash_comm (s t : RecordType) : clash s t = clash t s := by
  cases s <;> cases t <;> rfl

theorem clash_iff {t u : RecordType} : clash t u = true ↔ u ≠ t ∧ (t = .cname ∨ u = .cname) := by
  cases t <;> cases u <;> simp [clash]

theorem clash_eq_false_iff {s t : RecordType} :
    clash s t = false ↔ (s = .cname ↔ t = .cname) := by
  cases s <;> cases t <;> simp [clash]

theorem clashing?_eq_none_iff {m : Contents} {l : Label} :
    clashing? m l = none ↔ ∀ k ∈ m.keys, k.name = l.name → clash l.type k.type = false := by
  simp [clashing?, List.find?_eq_none]

end Store

namespace Operation

def alreadyExists (o : Operation) : Error :=
  Store.conflict s!"record set {o.name} {o.type.text} already exists"

def clashesWith (o : Operation) (l : Label) : Error :=
  Store.conflict s!"{o.label.text} conflicts with existing {l.text}"

def refusal? (o : Operation) (m : Contents) : Option Error :=
  match o.action with
  | .create _ =>
    if o.label ∈ m.keys then some o.alreadyExists
    else (Store.clashing? m o.label).map o.clashesWith
  | .update _ | .delete =>
    if o.label ∈ m.keys then none else some (Store.missingSet o.name o.type)

theorem refusal?_eq_none_iff {o : Operation} {m : Contents} :
    o.refusal? m = none ↔ o.Permitted m := by
  unfold refusal? Permitted
  cases o.action with
  | create set =>
    simp only
    split
    · simp_all
    · rename_i hfree
      rw [Option.map_eq_none_iff, Store.clashing?_eq_none_iff]
      exact ⟨fun h => ⟨hfree, h⟩, fun h => h.2⟩
  | update set => simp
  | delete => simp

end Operation

namespace Store

def lookup (s : Store) (zone : String) (l : Label) : Option NativeSet :=
  (s.contents? zone).bind (fun m => m.get? l)

theorem contents?_congr (s : Store) {zone other : String}
    (h : Name.ofString zone = Name.ofString other) : s.contents? zone = s.contents? other := by
  rw [contents?, contents?, h]

theorem contents?_setContents (s : Store) (zone other : String) (m : Contents) :
    (s.setContents zone m).contents? other =
      if Name.ofString other = Name.ofString zone then some m else s.contents? other := by
  unfold contents? setContents
  exact SortedMap.get?_insert s.zones (.ofString zone) (.ofString other) m

theorem lookup_of_contents {s : Store} {zone : String} {m : Contents}
    (h : s.contents? zone = some m) (l : Label) : s.lookup zone l = m.get? l := by
  rw [lookup, h, Option.bind_some]

/-- The outcome of the call that carries an operation out. -/
def perform (s : Store) (o : Operation) : Except Error Store :=
  match o.action with
  | .create set => s.create o.zone o.name o.type set
  | .update set => s.update o.zone o.name o.type set
  | .delete => s.delete o.zone o.name o.type

theorem answer_call (nameservers : List String) (s : Store) (o : Operation) :
    answer nameservers o.call s = s.writing (s.perform o) := by
  obtain ⟨zone, name, type, action⟩ := o
  cases action <;> rfl

theorem perform_missing {s : Store} {o : Operation} (h : s.contents? o.zone = none) :
    s.perform o = .error (missingZone o.zone) := by
  unfold perform create update delete hosted
  rw [h]
  cases o.action <;> rfl

/-- An operation on a zone that exists is refused for the reason that the zone
has, or takes effect on it. -/
theorem perform_of_contents {s : Store} {o : Operation} {m : Contents}
    (h : s.contents? o.zone = some m) :
    s.perform o = match o.refusal? m with
      | some e => .error e
      | none => .ok (s.setContents o.zone (o.effect m)) := by
  obtain ⟨zone, name, type, action⟩ := o
  have hhosted : s.hosted zone = .ok m := by rw [hosted, h]
  have hkeys : m.contains (.new name type) = true ↔ Label.new name type ∈ m.keys :=
    SortedMap.contains_iff
  by_cases hc : m.contains (.new name type) = true
  · have hl := hkeys.1 hc
    cases action <;>
      simp [perform, create, update, delete, hhosted, hc, hl, Operation.refusal?, Operation.label,
        Operation.alreadyExists, Operation.effect, Action.set?, bind, Except.bind, throw, throwThe,
        MonadExceptOf.throw, pure, Except.pure]
  · have hl := mt hkeys.2 hc
    cases action with
    | create set =>
      cases hclash : clashing? m (.new name type) <;>
        simp [perform, create, hhosted, hc, hl, hclash, Operation.refusal?, Operation.label,
          Operation.clashesWith, Operation.effect, Action.set?, bind, Except.bind, throw, throwThe,
          MonadExceptOf.throw, pure, Except.pure]
    | update set =>
      simp [perform, update, hhosted, hc, hl, Operation.refusal?, Operation.label, bind,
        Except.bind, throw, throwThe, MonadExceptOf.throw]
    | delete =>
      simp [perform, delete, hhosted, hc, hl, Operation.refusal?, Operation.label, bind,
        Except.bind, throw, throwThe, MonadExceptOf.throw]

/-- An operation succeeds exactly if its zone exists and permits it, and then it
has its effect on that zone. -/
theorem perform_eq_ok_iff {s t : Store} {o : Operation} :
    s.perform o = .ok t ↔
      ∃ m, s.contents? o.zone = some m ∧ o.Permitted m ∧ t = s.setContents o.zone (o.effect m) := by
  simp only [← Operation.refusal?_eq_none_iff]
  cases hm : s.contents? o.zone with
  | none => simp [perform_missing hm]
  | some m =>
    rw [perform_of_contents hm]
    cases hrefusal : o.refusal? m with
    | some e => simp [hrefusal]
    | none => simp [hrefusal, eq_comm]

theorem lookup_perform {s t : Store} {o : Operation} (h : s.perform o = .ok t) {zone : String}
    (hzone : Name.ofString o.zone = Name.ofString zone) (l : Label) :
    t.lookup zone l = if l = o.label then o.action.set? else s.lookup zone l := by
  obtain ⟨m, hm, -, rfl⟩ := perform_eq_ok_iff.1 h
  have hsame : s.contents? zone = some m := by
    rw [← hm, s.contents?_congr hzone]
  rw [lookup, lookup, contents?_setContents, if_pos hzone.symm, hsame]
  exact o.get?_effect m l

end Store

def Call.zone {α : Type} : Call α → String
  | zoneExists zone => zone
  | createZone zone => zone
  | list zone => zone
  | get zone _ _ => zone
  | create zone _ _ _ => zone
  | update zone _ _ _ => zone
  | delete zone _ _ => zone
  | nameservers zone => zone

namespace Store

/-- What a call about a zone can make of a store: nothing, a new zone without record sets,
or the effect of an operation that the zone permits. -/
inductive Step (s : Store) (zone : String) : Store → Prop where
  | refl : s.Step zone s
  | zone (hmissing : s.contents? zone = none) : s.Step zone (s.setContents zone .empty)
  | set {o : Operation} {m : Contents} (hm : s.contents? zone = some m)
      (hpermitted : o.Permitted m) : s.Step zone (s.setContents zone (o.effect m))

private theorem step_perform (s : Store) (o : Operation) :
    s.Step o.zone (s.writing (s.perform o)).2 := by
  cases hperform : s.perform o with
  | error e => exact .refl
  | ok t =>
    obtain ⟨m, hm, hpermitted, rfl⟩ := perform_eq_ok_iff.1 hperform
    exact .set hm hpermitted

theorem step_answer (nameservers : List String) (s : Store) {α : Type} (c : Call α) :
    s.Step c.zone (answer nameservers c s).2 := by
  have hoperation : ∀ o : Operation, s.Step o.zone (answer nameservers o.call s).2 := by
    intro o
    rw [answer_call]
    exact s.step_perform o
  cases c with
  | zoneExists zone => exact .refl
  | list zone => exact .refl
  | get zone name type => exact .refl
  | nameservers zone => exact .refl
  | createZone zone =>
    simp only [answer, createZone, Call.zone]
    cases hzone : s.contents? zone with
    | some m => exact .refl
    | none => exact .zone hzone
  | create zone name type set => exact hoperation ⟨zone, name, type, .create set⟩
  | update zone name type set => exact hoperation ⟨zone, name, type, .update set⟩
  | delete zone name type => exact hoperation ⟨zone, name, type, .delete⟩

end Store

/-- Some name has a CNAME label and a label of another type. -/
def CnameShared (L : Label → Prop) : Prop :=
  ∃ k l, L k ∧ L l ∧ k.name = l.name ∧ k.type = .cname ∧ l.type ≠ .cname

def Contents.Coexist (m : Contents) : Prop :=
  ∀ k ∈ m.keys, ∀ l ∈ m.keys, k.name = l.name → Store.clash k.type l.type = false

theorem not_cnameShared_iff {L : Label → Prop} :
    ¬ CnameShared L ↔
      ∀ k l, L k → L l → k.name = l.name → Store.clash k.type l.type = false := by
  constructor
  · intro h k l hk hl hname
    rw [Store.clash_eq_false_iff]
    constructor
    · intro hcname
      by_contra hother
      exact h ⟨k, l, hk, hl, hname, hcname, hother⟩
    · intro hcname
      by_contra hother
      exact h ⟨l, k, hl, hk, hname.symm, hcname, hother⟩
  · rintro h ⟨k, l, hk, hl, hname, hcname, hother⟩
    exact hother ((Store.clash_eq_false_iff.1 (h k l hk hl hname)).1 hcname)

theorem Contents.coexist_iff {m : Contents} : m.Coexist ↔ ¬ CnameShared (· ∈ m.keys) := by
  rw [not_cnameShared_iff]
  exact ⟨fun h k l hk hl => h k hk l hl, fun h k hk l hl => h k l hk hl⟩

theorem Contents.coexist_empty : Contents.Coexist .empty := by
  intro k hk
  cases hk

/-- A CNAME that is alone under its name stays alone. -/
theorem Contents.Coexist.effect {m : Contents} (h : m.Coexist) {o : Operation}
    (hp : o.Permitted m) : Contents.Coexist (o.effect m) := by
  have hkept : ∀ k ∈ (o.effect m).keys, k = o.label ∨ k ∈ m.keys := by
    intro k hk
    rw [Operation.mem_keys_effect] at hk
    split at hk
    · exact .inl ‹_›
    · exact .inr hk
  -- only a label that is created was not checked against its neighbours before
  have hown : o.label ∈ (o.effect m).keys →
      ∀ k ∈ m.keys, k.name = o.label.name → Store.clash o.label.type k.type = false := by
    intro hmem k hk hname
    obtain ⟨zone, name, type, action⟩ := o
    cases action with
    | create set => exact hp.2 k hk hname
    | update set => exact h _ hp k hk hname.symm
    | delete => simp [Operation.mem_keys_effect, Action.set?] at hmem
  intro k hk l hl hname
  rcases hkept k hk with rfl | hk' <;> rcases hkept l hl with rfl | hl'
  · simp [Store.clash]
  · exact hown hk l hl' hname.symm
  · rw [Store.clash_comm]
    exact hown hl k hk' hname
  · exact h k hk' l hl' hname

namespace Store

/-- The zone exists, and in it no CNAME shares its name. -/
def Coexists (s : Store) (zone : String) : Prop :=
  ∃ m, s.contents? zone = some m ∧ m.Coexist

theorem Coexists.setContents {s : Store} {zone other : String} {m : Contents}
    (h : s.Coexists zone) (hother : Name.ofString zone = Name.ofString other → m.Coexist) :
    (s.setContents other m).Coexists zone := by
  obtain ⟨n, hn, hcoexist⟩ := h
  by_cases hzone : Name.ofString zone = Name.ofString other
  · exact ⟨m, by rw [contents?_setContents, if_pos hzone], hother hzone⟩
  · exact ⟨n, by rw [contents?_setContents, if_neg hzone, hn], hcoexist⟩

theorem Coexists.step {s t : Store} {zone other : String} (h : s.Coexists zone)
    (hstep : s.Step other t) : t.Coexists zone := by
  cases hstep with
  | refl => exact h
  | zone hmissing => exact h.setContents (fun _ => Contents.coexist_empty)
  | set hm hpermitted =>
    refine h.setContents (fun hzone => ?_)
    obtain ⟨n, hn, hcoexist⟩ := h
    rw [s.contents?_congr hzone, hm] at hn
    cases hn
    exact hcoexist.effect hpermitted

/-- No call to the store lets a CNAME share its name. -/
theorem Coexists.answer (nameservers : List String) {s : Store} {zone : String}
    (h : s.Coexists zone) {α : Type} (c : Call α) :
    (Store.answer nameservers c s).2.Coexists zone :=
  h.step (s.step_answer nameservers c)

def Hosts (s : Store) (zone : String) : Prop := ∃ m, s.contents? zone = some m

theorem hosts_of_lookup {s : Store} {zone : String} {l : Label} {set : NativeSet}
    (h : s.lookup zone l = some set) : s.Hosts zone := by
  obtain ⟨m, hm, -⟩ := Option.bind_eq_some_iff.1 h
  exact ⟨m, hm⟩

theorem Hosts.of_fqdn {s : Store} {zone other : String} (h : s.Hosts other)
    (heq : fqdn zone = fqdn other) : s.Hosts zone := by
  obtain ⟨m, hm⟩ := h
  exact ⟨m, (s.contents?_congr (Name.ofString_eq_iff.2 heq)).trans hm⟩

theorem not_hosts_iff {s : Store} {zone : String} : ¬ s.Hosts zone ↔ s.contents? zone = none := by
  rw [Hosts, ← Option.ne_none_iff_exists', not_not]

theorem Hosts.setContents {s : Store} {zone : String} (h : s.Hosts zone) (other : String)
    (n : Contents) : (s.setContents other n).Hosts zone := by
  obtain ⟨m, hm⟩ := h
  by_cases hzone : Name.ofString zone = Name.ofString other
  · exact ⟨n, by rw [contents?_setContents, if_pos hzone]⟩
  · exact ⟨m, by rw [contents?_setContents, if_neg hzone, hm]⟩

theorem Hosts.step {s t : Store} {zone other : String} (h : s.Hosts zone)
    (hstep : s.Step other t) : t.Hosts zone := by
  cases hstep with
  | refl => exact h
  | zone hmissing => exact h.setContents _ _
  | set hm hpermitted => exact h.setContents _ _

/-- No call removes a zone. -/
theorem Hosts.answer (nameservers : List String) {s : Store} {zone : String} (h : s.Hosts zone)
    {α : Type} (c : Call α) : (Store.answer nameservers c s).2.Hosts zone :=
  h.step (s.step_answer nameservers c)

end Store

/-- An attempt on a zone that exists. -/
theorem Correction.apply_of_contents (nameservers : List String) (capabilities : Capabilities)
    {s : Store} {c : Correction} {m : Contents} (h : s.contents? c.operation.zone = some m) :
    c.apply { Store.provider nameservers with capabilities } s =
      match c.operation.refusal? m with
      | some e => (.error (c.failure e), s)
      | none => (.ok (), s.setContents c.operation.zone (c.operation.effect m)) := by
  change ((Store.answer nameservers c.operation.call s).1.mapError c.failure,
    (Store.answer nameservers c.operation.call s).2) = _
  rw [Store.answer_call, Store.perform_of_contents h]
  cases c.operation.refusal? m <;> rfl

end DnsReconcile
