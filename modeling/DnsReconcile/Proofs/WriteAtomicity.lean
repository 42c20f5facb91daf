import DnsReconcile.Proofs.StoreWrites

/-!
A write takes effect as a whole or not at all.

There are two kinds of calls that write (`Mutation`). When the store refuses one, and with
which error, depends on the entries of one zone (`Store.Refusal`, one case per reason):
a zone that exists already or is missing, a set that exists already or is missing, and a
CNAME beside another type. These are all the errors there are, a refused call leaves the
whole store as it was, and any other call changes one entry or adds one zone without
entries (`Store.mutation_atomic`). An entry is found by the canonical form of its zone and
of its name, so all of this holds of any spelling.
-/

namespace DnsReconcile

/-- A call that writes: a new zone, or an operation on a record set. -/
inductive Mutation where
  | createZone (zone : String)
  | operation (o : Operation)

def Mutation.call : Mutation → Call Unit
  | createZone zone => .createZone zone
  | operation o => o.call

namespace Store

/-- A type stored under a name of a zone keeps another type from being created there. -/
def Blocks (s : Store) (zone name : String) (type other : RecordType) : Prop :=
  (∃ set, s.lookup zone (.new name other) = some set) ∧ other ≠ type ∧
    (type = .cname ∨ other = .cname)

/-- Why a store refuses a call that writes, with the error that tells it. -/
inductive Refusal (s : Store) : Mutation → Error → Prop where
  /-- The zone to be created exists. -/
  | zoneExists {zone : String} (hzone : s.Hosts zone) :
    s.Refusal (.createZone zone) (conflict s!"zone {fqdn zone} already exists")
  /-- The zone of the record set does not exist. -/
  | zoneMissing {o : Operation} (hzone : ¬ s.Hosts o.zone) :
    s.Refusal (.operation o) (missingZone o.zone)
  /-- The set to be created exists. -/
  | setExists {zone name : String} {type : RecordType} {set stored : NativeSet}
      (hstored : s.lookup zone (.new name type) = some stored) :
    s.Refusal (.operation ⟨zone, name, type, .create set⟩)
      (conflict s!"record set {name} {type.text} already exists")
  /-- The set to be created cannot stand beside another. The first one is told. -/
  | blocked {zone name : String} {type other : RecordType} {set : NativeSet}
      (hfree : s.lookup zone (.new name type) = none) (hother : s.Blocks zone name type other)
      (hfirst : ∀ earlier : RecordType, earlier.rank < other.rank →
        ¬ s.Blocks zone name type earlier) :
    s.Refusal (.operation ⟨zone, name, type, .create set⟩)
      (conflict (s!"{(Label.new name type).text} conflicts with existing " ++
        (Label.new name other).text))
  /-- The set to be written over does not exist. -/
  | updateMissing {zone name : String} {type : RecordType} {set : NativeSet}
      (hzone : s.Hosts zone) (hmissing : s.lookup zone (.new name type) = none) :
    s.Refusal (.operation ⟨zone, name, type, .update set⟩) (missingSet name type)
  /-- The set to be removed does not exist. -/
  | deleteMissing {zone name : String} {type : RecordType}
      (hzone : s.Hosts zone) (hmissing : s.lookup zone (.new name type) = none) :
    s.Refusal (.operation ⟨zone, name, type, .delete⟩) (missingSet name type)

/-- The entry of a zone, a name and a type is now this one, under every spelling, and what is
found at any other is found there as before. -/
structure Sets (s t : Store) (zone name : String) (type : RecordType) (set? : Option NativeSet) :
    Prop where
  own : ∀ zone' name', fqdn zone' = fqdn zone → fqdn name' = fqdn name →
    (t.get zone' name' type).toOption = set?
  others : ∀ zone' name' type', (fqdn zone', fqdn name', type') ≠ (fqdn zone, fqdn name, type) →
    (t.get zone' name' type').toOption = (s.get zone' name' type').toOption

/-- What becomes of a store by a call that writes: the new zone is there without entries and
all others are as before, or there are the same zones, and the entry of the operation is
what it asks for. -/
def Written (s t : Store) : Mutation → Prop
  | .createZone zone =>
    t.contents? zone = some .empty ∧
      ∀ other, fqdn other ≠ fqdn zone → t.contents? other = s.contents? other
  | .operation o =>
    (∀ zone, t.Hosts zone ↔ s.Hosts zone) ∧ s.Sets t o.zone o.name o.type o.action.set?

/-- A call that writes fails for a reason that the store has and then changes nothing, or
does what it is for and changes nothing else. -/
structure Atomic (s : Store) (m : Mutation) (result : Except Error Unit) (t : Store) : Prop where
  refused : ∀ e, result = .error e ↔ s.Refusal m e
  unchanged : ∀ e, result = .error e → t = s
  written : result = .ok () → s.Written t m

end Store

theorem RecordType.compare_eq (t u : RecordType) : compare t u = compare t.rank u.rank := rfl

theorem Label.compare_eq (l m : Label) :
    compare l m = (compare l.name m.name).then (compare l.type m.type) := rfl

namespace Store

variable {s : Store} {e : Error}

/-- Labels of one name are in the order of their types. -/
private theorem compare_new_eq_lt {name : String} {t u : RecordType} :
    compare (Label.new name t) (Label.new name u) = .lt ↔ t.rank < u.rank := by
  rw [Label.compare_eq, Label.new, Label.new, Std.ReflOrd.compare_self, Ordering.eq_then,
    RecordType.compare_eq, Nat.compare_eq_lt]

/-- A label that cannot stand beside another is of the same name and a type that blocks. -/
private theorem clashes_iff {m : Contents} {zone name : String} {type : RecordType}
    (hm : s.contents? zone = some m) {l : Label} :
    (l ∈ m.keys ∧ l.name = (Label.new name type).name ∧
        clash (Label.new name type).type l.type = true) ↔
      ∃ other, l = .new name other ∧ s.Blocks zone name type other := by
  have hstored : ∀ other, (∃ set, s.lookup zone (.new name other) = some set) ↔
      Label.new name other ∈ m.keys := by
    intro other
    rw [lookup_of_contents hm, SortedMap.mem_keys_iff]
  simp only [Blocks, hstored]
  constructor
  · rintro ⟨hmem, hname, hclash⟩
    obtain ⟨owner, other⟩ := l
    cases hname
    exact ⟨other, rfl, hmem, clash_iff.1 hclash⟩
  · rintro ⟨other, rfl, hmem, hne, hcname⟩
    exact ⟨hmem, rfl, clash_iff.2 ⟨hne, hcname⟩⟩

/-- The label that is told is of the first type that blocks. -/
theorem clashing?_eq_some_iff {m : Contents} {zone name : String} {type : RecordType}
    (hm : s.contents? zone = some m) {l : Label} :
    clashing? m (.new name type) = some l ↔
      ∃ other, l = .new name other ∧ s.Blocks zone name type other ∧
        ∀ earlier : RecordType, earlier.rank < other.rank → ¬ s.Blocks zone name type earlier := by
  have hkeys : Ascending (m.keys.map id) := by
    rw [List.map_id]
    exact m.ascending_keys
  rw [clashing?, List.find?_eq_findSome?_guard, hkeys.findSome?_eq_some_iff]
  simp only [Option.guard_eq_some_iff, Option.guard_eq_none_iff, Bool.and_eq_true,
    Bool.and_eq_false_imp, beq_iff_eq, id]
  constructor
  · rintro ⟨k, hk, ⟨rfl, hclash⟩, hfirst⟩
    obtain ⟨other, rfl, hblocks⟩ := (clashes_iff hm).1 ⟨hk, hclash⟩
    refine ⟨other, rfl, hblocks, fun earlier hlt hearlier => ?_⟩
    obtain ⟨hmem, hname, hother⟩ := (clashes_iff hm).2 ⟨earlier, rfl, hearlier⟩
    rw [hfirst _ hmem (compare_new_eq_lt.2 hlt) hname] at hother
    cases hother
  · rintro ⟨other, rfl, hblocks, hfirst⟩
    obtain ⟨hmem, hclash⟩ := (clashes_iff hm).2 ⟨other, rfl, hblocks⟩
    refine ⟨_, hmem, ⟨rfl, hclash⟩, fun j hj hlt hname => ?_⟩
    by_contra hother
    obtain ⟨earlier, rfl, hearlier⟩ :=
      (clashes_iff hm).1 ⟨hj, hname, Bool.eq_true_of_not_eq_false hother⟩
    exact hfirst earlier (compare_new_eq_lt.1 hlt) hearlier

/-- In a zone that exists, what is found at labels decides about an operation. -/
theorem refusal?_eq_some_iff {o : Operation} {m : Contents}
    (hm : s.contents? o.zone = some m) :
    o.refusal? m = some e ↔ s.Refusal (.operation o) e := by
  have hzone : s.Hosts o.zone := ⟨m, hm⟩
  have hfree : s.lookup o.zone o.label = none ↔ o.label ∉ m.keys := by
    rw [lookup_of_contents hm, SortedMap.get?_eq_none_iff]
  constructor
  · intro h
    obtain ⟨zone, name, type, action⟩ := o
    cases action with
    | create set =>
      simp only [Operation.refusal?] at h
      split at h
      · cases h
        obtain ⟨stored, hstored⟩ := SortedMap.mem_keys_iff.1 ‹_›
        exact .setExists ((lookup_of_contents hm _).trans hstored)
      · obtain ⟨l, hl, rfl⟩ := Option.map_eq_some_iff.1 h
        obtain ⟨other, rfl, hother, hfirst⟩ := (clashing?_eq_some_iff hm).1 hl
        exact .blocked (hfree.2 ‹_›) hother hfirst
    | update set =>
      obtain ⟨hnot, rfl⟩ : _ ∉ m.keys ∧ _ = e := by simpa [Operation.refusal?] using h
      exact .updateMissing hzone (hfree.2 hnot)
    | delete =>
      obtain ⟨hnot, rfl⟩ : _ ∉ m.keys ∧ _ = e := by simpa [Operation.refusal?] using h
      exact .deleteMissing hzone (hfree.2 hnot)
  · intro h
    cases h with
    | zoneMissing hmissing => exact absurd hzone hmissing
    | setExists hstored =>
      rw [lookup_of_contents hm] at hstored
      exact if_pos (SortedMap.mem_keys_iff.2 ⟨_, hstored⟩)
    | blocked hfree' hother hfirst =>
      have hclash := (clashing?_eq_some_iff hm).2 ⟨_, rfl, hother, hfirst⟩
      exact (if_neg (hfree.1 hfree')).trans (congrArg _ hclash)
    | updateMissing _ hmissing => exact if_neg (hfree.1 hmissing)
    | deleteMissing _ hmissing => exact if_neg (hfree.1 hmissing)

theorem perform_eq_error_iff {o : Operation} :
    s.perform o = .error e ↔ s.Refusal (.operation o) e := by
  cases hm : s.contents? o.zone with
  | none =>
    have hzone : ¬ s.Hosts o.zone := not_hosts_iff.2 hm
    rw [perform_missing hm]
    constructor
    · intro h
      cases h
      exact .zoneMissing hzone
    · intro h
      cases h with
      | zoneMissing => rfl
      | setExists hstored => exact absurd (hosts_of_lookup hstored) hzone
      | blocked hfree hother =>
        obtain ⟨⟨set, hset⟩, -⟩ := hother
        exact absurd (hosts_of_lookup hset) hzone
      | updateMissing hhosted => exact absurd hhosted hzone
      | deleteMissing hhosted => exact absurd hhosted hzone
  | some m =>
    rw [← refusal?_eq_some_iff hm, perform_of_contents hm]
    cases o.refusal? m <;> simp

theorem createZone_eq_error_iff {zone : String} :
    s.createZone zone = .error e ↔ s.Refusal (.createZone zone) e := by
  constructor
  · intro h
    unfold createZone at h
    split at h
    · cases h
      exact .zoneExists ⟨_, ‹_›⟩
    · cases h
  · rintro ⟨m, hm⟩
    rw [createZone, hm]

variable {t : Store} {zone name : String} {type : RecordType}

/-- What is found by a look-up is the entry. -/
theorem get_eq_ok_iff {set : NativeSet} :
    s.get zone name type = .ok set ↔ s.lookup zone (.new name type) = some set := by
  unfold get hosted lookup
  cases s.contents? zone with
  | none => simp [bind, Except.bind]
  | some m =>
    cases hget : m.get? (.new name type) <;>
      simp [hget, bind, Except.bind, throw, throwThe, MonadExceptOf.throw, pure, Except.pure]

theorem toOption_get (s : Store) (zone name : String) (type : RecordType) :
    (s.get zone name type).toOption = s.lookup zone (.new name type) := by
  refine Option.ext (fun set => ?_)
  rw [← get_eq_ok_iff]
  cases s.get zone name type <;> simp [Except.toOption]

theorem lookup_congr {other name' : String} (hzone : fqdn other = fqdn zone)
    (hname : fqdn name' = fqdn name) :
    s.lookup other (.new name' type) = s.lookup zone (.new name type) := by
  rw [lookup, lookup, s.contents?_congr (Name.ofString_eq_iff.2 hzone), Label.new, Label.new,
    Name.ofString_eq_iff.2 hname]

theorem hosts_setContents {other : String} {m : Contents} :
    (s.setContents zone m).Hosts other ↔ s.Hosts other ∨ fqdn other = fqdn zone := by
  rw [Hosts, Hosts, contents?_setContents]
  split
  · simp [Name.ofString_eq_iff.1 ‹_›]
  · simp [mt Name.ofString_eq_iff.2 ‹_›]

/-- A zone whose contents are the old ones but for one label has one other entry. -/
theorem sets_setContents {m : Contents} {set? : Option NativeSet}
    (hm : ∀ l, m.get? l = if l = .new name type then set? else s.lookup zone l) :
    s.Sets (s.setContents zone m) zone name type set? := by
  have hcontents : ∀ other, fqdn other = fqdn zone →
      (s.setContents zone m).contents? other = some m := by
    intro other heq
    rw [contents?_setContents, if_pos (Name.ofString_eq_iff.2 heq)]
  refine ⟨fun other name' hzone hname => ?_, fun other name' type' hne => ?_⟩
  · rw [toOption_get, lookup_congr hzone hname, lookup_of_contents (hcontents zone rfl), hm,
      if_pos rfl]
  · rw [toOption_get, toOption_get]
    by_cases heq : fqdn other = fqdn zone
    · rw [lookup_of_contents (hcontents other heq), hm, if_neg, lookup_congr heq rfl]
      intro hlabel
      obtain ⟨hname, htype⟩ := Label.mk.inj hlabel
      exact hne (by rw [heq, Name.ofString_eq_iff.1 hname, htype])
    · rw [lookup, lookup, contents?_setContents, if_neg (mt Name.ofString_eq_iff.1 heq)]

theorem sets_of_perform {o : Operation} (h : s.perform o = .ok t) :
    s.Sets t o.zone o.name o.type o.action.set? := by
  obtain ⟨m, hm, -, rfl⟩ := perform_eq_ok_iff.1 h
  refine sets_setContents (fun l => ?_)
  rw [o.get?_effect, lookup_of_contents hm]
  rfl

theorem written_of_perform {o : Operation} (h : s.perform o = .ok t) :
    s.Written t (.operation o) := by
  obtain ⟨m, hm, -, ht⟩ := perform_eq_ok_iff.1 h
  refine ⟨fun zone => ?_, sets_of_perform h⟩
  rw [ht, hosts_setContents, or_iff_left_iff_imp]
  exact Hosts.of_fqdn ⟨m, hm⟩

theorem written_of_createZone (h : s.createZone zone = .ok t) :
    s.Written t (.createZone zone) := by
  unfold createZone at h
  split at h
  · cases h
  · cases h
    refine ⟨by rw [contents?_setContents, if_pos rfl], fun other hne => ?_⟩
    rw [contents?_setContents, if_neg (mt Name.ofString_eq_iff.1 hne)]

/-- A call whose outcome is to be written down is atomic if its outcome is. -/
private theorem atomic_writing {m : Mutation} {outcome : Except Error Store}
    (herror : ∀ e, outcome = .error e ↔ s.Refusal m e)
    (hok : ∀ t, outcome = .ok t → s.Written t m) :
    s.Atomic m (s.writing outcome).1 (s.writing outcome).2 := by
  cases houtcome : outcome with
  | error e =>
    refine ⟨fun e' => ?_, fun _ _ => rfl, fun h => by cases h⟩
    rw [← herror, houtcome]
    simp [writing]
  | ok t =>
    refine ⟨fun e' => ?_, fun _ h => (by cases h), fun _ => hok t houtcome⟩
    rw [← herror, houtcome]
    simp [writing]

/-- Every call that writes, on every store and with zone and name in any spelling, fails for
one of the reasons of `Refusal` and then leaves the store as it was, or takes effect on
its own entry and on nothing else. -/
theorem mutation_atomic (nameservers : List String) (s : Store) (m : Mutation) :
    s.Atomic m (answer nameservers m.call s).1 (answer nameservers m.call s).2 := by
  cases m with
  | createZone zone =>
    exact atomic_writing (fun _ => createZone_eq_error_iff) (fun _ => written_of_createZone)
  | operation o =>
    rw [Mutation.call, answer_call]
    exact atomic_writing (fun _ => perform_eq_error_iff) (fun _ => written_of_perform)

end Store

end DnsReconcile
