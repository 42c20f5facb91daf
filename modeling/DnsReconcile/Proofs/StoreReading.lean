import Mathlib.Data.List.Forall2
import DnsReconcile.Proofs.Hosting
import DnsReconcile.Proofs.Layout
import DnsReconcile.Proofs.WriteAtomicity

/-!
A store is read as it was written.

Four things have to agree on what a name is: writing, looking up, listing, and reading a
whole zone. Behind any history of calls and seeds they do (`Store.Consistent`,
`Store.consistent_after`). A deed in another spelling does the same, so a history in other
spellings ends in the same store (`Store.after_canonical`); what is written at an entry is
found there under every spelling of it; the listing of a zone ascends and holds exactly what can
be looked up; and reading the zone fails at nothing but a served member without the layout
of its type, and otherwise has one record for each served member, in the order of the
listing.
-/

namespace DnsReconcile

def Call.canonical {α : Type} : Call α → Call α
  | zoneExists zone => .zoneExists (fqdn zone)
  | createZone zone => .createZone (fqdn zone)
  | list zone => .list (fqdn zone)
  | get zone name type => .get (fqdn zone) (fqdn name) type
  | create zone name type set => .create (fqdn zone) (fqdn name) type set
  | update zone name type set => .update (fqdn zone) (fqdn name) type set
  | delete zone name type => .delete (fqdn zone) (fqdn name) type
  | nameservers zone => .nameservers (fqdn zone)

/-- What can be done to a store: a call, or a record set put into it directly. -/
inductive Deed : Type 1 where
  | call {α : Type} (c : Call α)
  | seed (zone name : String) (type : RecordType) (set : NativeSet)

def Deed.canonical : Deed → Deed
  | call c => .call c.canonical
  | seed zone name type set => .seed (fqdn zone) (fqdn name) type set

def Operation.canonical (o : Operation) : Operation :=
  { o with zone := fqdn o.zone, name := fqdn o.name }

@[simp] theorem Name.ofString_fqdn (s : String) : ofString (fqdn s) = ofString s :=
  ext_text (fqdn_fqdn s)

@[simp] theorem Label.new_fqdn (name : String) (type : RecordType) :
    new (fqdn name) type = new name type := by
  rw [new, new, Name.ofString_fqdn]

theorem Operation.zone_canonical (o : Operation) : o.canonical.zone = fqdn o.zone := rfl

theorem Operation.label_canonical (o : Operation) : o.canonical.label = o.label :=
  Label.new_fqdn o.name o.type

theorem Operation.call_canonical (o : Operation) : o.call.canonical = o.canonical.call := by
  obtain ⟨zone, name, type, action⟩ := o
  cases action <;> rfl

theorem RecordType.text_lt_text_iff {t u : RecordType} : t.text < u.text ↔ t.rank < u.rank := by
  cases t <;> cases u <;> decide +kernel

theorem Name.compare_eq_lt_iff {a b : Name} : compare a b = .lt ↔ a.text < b.text := by
  change compareOfLessAndEq a.text b.text = .lt ↔ _
  exact compareOfLessAndEq_eq_lt

/-- One reference comes before another: by name, then by type. -/
def SetRef.Before (a b : SetRef) : Prop := a.name < b.name ∨ a.name = b.name ∧ a.type < b.type

namespace Store

def done (nameservers : List String) (s : Store) : Deed → Store
  | .call c => (answer nameservers c s).2
  | .seed zone name type set => s.seed zone name type set

def after (nameservers : List String) (s : Store) (deeds : List Deed) : Store :=
  deeds.foldl (done nameservers) s

/-- The references are the listing of a zone: in order, without repetition, and of exactly
those canonical names and types under which a set can be looked up. -/
structure Lists (s : Store) (zone : String) (refs : List SetRef) : Prop where
  listed : s.list zone = .ok refs
  ascending : refs.Pairwise SetRef.Before
  nodup : refs.Nodup
  found : ∀ ref, ref ∈ refs ↔ fqdn ref.name = ref.name ∧
    ∃ type, ref.type = type.text ∧ ∃ set, s.get zone ref.name type = .ok set

/-- What reading a zone, set by set in the order of `refs`, comes to: an error that names
a served member which cannot be read, if and only if some served member does not have the layout
of its type, and else one record for each served member. -/
structure Fetched (s : Store) (zone : String) (refs : List SetRef)
    (result : Except Error (List Record)) : Prop where
  error : ∀ e, result = .error e → ∃ name type set, s.get zone name type = .ok set ∧
    ∃ m ∈ set.records, NativeSet.IsMalformed name type m e
  fails : (∃ e, result = .error e) ↔ ∃ name type set, s.get zone name type = .ok set ∧
    ∃ m ∈ set.records, m.enabled = true ∧ ¬ Content.Fits type m.content
  records : ∀ rs, result = .ok rs → ∃ parts, rs = parts.flatten ∧
    List.Forall₂ (fun ref part => ∃ type set, ref.type = type.text ∧
      s.get zone ref.name type = .ok set ∧
      List.Forall₂ (NativeSet.IsRead zone ref.name type set.ttl)
        (set.records.filter (·.enabled)) part) refs parts

/-- All ways to a store agree on its entries. -/
structure Consistent (nameservers : List String) (s : Store) : Prop where
  respelled : ∀ {α : Type} (c d : Call α), c.canonical = d.canonical →
    (answer nameservers c s).1.toOption = (answer nameservers d s).1.toOption ∧
      (answer nameservers c s).2 = (answer nameservers d s).2
  seeded : ∀ zone name type set, s.Sets (s.seed zone name type set) zone name type (some set) ∧
    ∀ other, (s.seed zone name type set).Hosts other ↔ s.Hosts other ∨ fqdn other = fqdn zone
  written : ∀ o : Operation, (answer nameservers o.call s).1 = .ok () →
    s.Sets (answer nameservers o.call s).2 o.zone o.name o.type o.action.set?
  read : ∀ zone, s.Hosts zone → ∃ refs, s.Lists zone refs ∧
    ∀ capabilities config scheduler clock notices,
      let r : Reconciler Store :=
        ⟨{ provider nameservers with capabilities }, config, scheduler⟩
      let run := r.fetchObserved zone ⟨s, clock, notices⟩
      s.Fetched zone refs run.1 ∧ run.2.provider = s

variable {s t : Store} {zone name : String} {type : RecordType}

@[simp] theorem contents?_fqdn (s : Store) (zone : String) :
    s.contents? (fqdn zone) = s.contents? zone := by
  rw [contents?, contents?, Name.ofString_fqdn]

@[simp] theorem setContents_fqdn (s : Store) (zone : String) (m : Contents) :
    s.setContents (fqdn zone) m = s.setContents zone m := by
  rw [setContents, setContents, Name.ofString_fqdn]

/-- The store behind a writing, and whether it took effect, is told by what it succeeds with. -/
private theorem writing_congr {x y : Except Error Store} (h : ∀ t, x = .ok t ↔ y = .ok t) :
    (s.writing x).1.toOption = (s.writing y).1.toOption ∧
      (s.writing x).2 = (s.writing y).2 := by
  cases x with
  | ok t =>
    rw [(h t).1 rfl]
    exact ⟨rfl, rfl⟩
  | error e =>
    cases y with
    | ok t => cases (h t).2 rfl
    | error e' => exact ⟨rfl, rfl⟩

theorem perform_canonical {o : Operation} :
    s.perform o.canonical = .ok t ↔ s.perform o = .ok t := by
  have hpermitted : ∀ m, o.canonical.Permitted m ↔ o.Permitted m := by
    intro m
    unfold Operation.Permitted
    rw [Operation.label_canonical]
    rfl
  have heffect : ∀ m, o.canonical.effect m = o.effect m := by
    intro m
    unfold Operation.effect
    rw [Operation.label_canonical]
    rfl
  rw [perform_eq_ok_iff, perform_eq_ok_iff]
  simp only [hpermitted, heffect, Operation.zone_canonical, contents?_fqdn, setContents_fqdn]

/-- A call in canonical spelling does the same, and its errors are errors still. -/
theorem answer_canonical (nameservers : List String) (s : Store) {α : Type} (c : Call α) :
    (answer nameservers c.canonical s).1.toOption = (answer nameservers c s).1.toOption ∧
      (answer nameservers c.canonical s).2 = (answer nameservers c s).2 := by
  have hoperation : ∀ o : Operation,
      (answer nameservers o.call.canonical s).1.toOption =
          (answer nameservers o.call s).1.toOption ∧
        (answer nameservers o.call.canonical s).2 = (answer nameservers o.call s).2 := by
    intro o
    rw [o.call_canonical, answer_call, answer_call]
    exact writing_congr (fun _ => perform_canonical)
  cases c with
  | zoneExists zone => simp only [Call.canonical, answer, reading, contents?_fqdn, and_self]
  | list zone =>
    simp only [Call.canonical, answer, reading, list, hosted, contents?_fqdn]
    cases s.contents? zone <;> simp [Except.toOption, bind, Except.bind]
  | get zone name type =>
    simp only [Call.canonical, answer, reading, toOption_get, lookup, contents?_fqdn,
      Label.new_fqdn, and_self]
  | nameservers zone => simp only [Call.canonical, answer, reading, and_self]
  | createZone zone =>
    simp only [Call.canonical, answer]
    refine writing_congr (fun t => ?_)
    simp only [createZone, contents?_fqdn, setContents_fqdn]
    cases s.contents? zone <;> simp
  | create zone name type set => exact hoperation ⟨zone, name, type, .create set⟩
  | update zone name type set => exact hoperation ⟨zone, name, type, .update set⟩
  | delete zone name type => exact hoperation ⟨zone, name, type, .delete⟩

theorem done_canonical (nameservers : List String) (s : Store) (d : Deed) :
    s.done nameservers d.canonical = s.done nameservers d := by
  cases d with
  | call c => exact (s.answer_canonical nameservers c).2
  | seed zone name type set =>
    simp only [Deed.canonical, done, seed, contents?_fqdn, setContents_fqdn, Label.new_fqdn]

/-- A history in canonical spelling ends in the same store. -/
theorem after_canonical (nameservers : List String) (s : Store) (deeds : List Deed) :
    s.after nameservers (deeds.map Deed.canonical) = s.after nameservers deeds := by
  induction deeds generalizing s with
  | nil => rfl
  | cons d rest ih =>
    change (s.done nameservers d.canonical).after nameservers (rest.map Deed.canonical) =
      (s.done nameservers d).after nameservers rest
    rw [done_canonical, ih]

theorem sets_seed (s : Store) (zone name : String) (type : RecordType) (set : NativeSet) :
    s.Sets (s.seed zone name type set) zone name type (some set) := by
  refine sets_setContents (fun l => ?_)
  rw [SortedMap.get?_insert, lookup]
  cases s.contents? zone <;> rfl

def ref (l : Label) : SetRef := ⟨l.name.text, l.type.text⟩

theorem list_of_contents {m : Contents} (hm : s.contents? zone = some m) :
    s.list zone = .ok (m.keys.map ref) := by
  rw [list, hosted, hm]
  rfl

theorem before_ref_iff {k l : Label} : (ref k).Before (ref l) ↔ compare k l = .lt := by
  rw [Label.compare_eq, Ordering.then_eq_lt, Name.compare_eq_lt_iff, RecordType.compare_eq,
    Nat.compare_eq_lt, SetRef.Before, ref, ref, RecordType.text_lt_text_iff,
    Std.LawfulEqOrd.compare_eq_iff_eq]
  exact or_congr_right (and_congr_left' ⟨fun h => Name.ext_text h, congrArg Name.text⟩)

theorem lists_of_contents {m : Contents} (hm : s.contents? zone = some m) :
    s.Lists zone (m.keys.map ref) := by
  have hbefore : (m.keys.map ref).Pairwise SetRef.Before :=
    List.pairwise_map.2 (m.ascending_keys.imp before_ref_iff.2)
  refine ⟨list_of_contents hm, hbefore, hbefore.imp ?_, fun r => ?_⟩
  · rintro a b hab rfl
    rcases hab with hlt | ⟨-, hlt⟩ <;> exact String.lt_irrefl _ hlt
  · simp only [List.mem_map, SortedMap.mem_keys_iff, get_eq_ok_iff, lookup_of_contents hm]
    constructor
    · rintro ⟨l, ⟨set, hset⟩, rfl⟩
      refine ⟨l.name.canonical, l.type, rfl, set, ?_⟩
      rw [ref, Label.new, Name.ofString_text]
      exact hset
    · rintro ⟨hname, type, htype, set, hset⟩
      refine ⟨_, ⟨set, hset⟩, ?_⟩
      obtain ⟨name, text⟩ := r
      cases htype
      exact congrArg (SetRef.mk · _) hname

/-- Reading a zone reads the sets that are listed. -/
theorem fetched_of_contents {m : Contents} (hm : s.contents? zone = some m) :
    s.Fetched zone (m.keys.map ref) (Contents.records zone m.entries) := by
  have hget : ∀ f ∈ m.entries, s.get zone f.1.name.text f.1.type = .ok f.2 := by
    intro f hf
    rw [get_eq_ok_iff, lookup_of_contents hm, Label.new, Name.ofString_text]
    exact SortedMap.get?_eq_some_iff.2 hf
  have hlabel : ∀ {name type set}, s.get zone name type = .ok set →
      (Label.new name type, set) ∈ m.entries := by
    intro name type set h
    rw [get_eq_ok_iff, lookup_of_contents hm] at h
    exact SortedMap.get?_eq_some_iff.1 h
  have herror : ∀ e, Contents.records zone m.entries = .error e →
      ∃ name type set, s.get zone name type = .ok set ∧
        ∃ member ∈ set.records, NativeSet.IsMalformed name type member e := by
    intro e he
    obtain ⟨f, hf, hfail⟩ := Contents.exists_of_records_error he
    exact ⟨_, _, _, hget f hf, NativeSet.exists_malformed_of_readMembers hfail⟩
  have hok : ∀ rs, Contents.records zone m.entries = .ok rs → ∃ parts, rs = parts.flatten ∧
      List.Forall₂ (fun ref part => ∃ type set, ref.type = type.text ∧
        s.get zone ref.name type = .ok set ∧
        List.Forall₂ (NativeSet.IsRead zone ref.name type set.ttl)
          (set.records.filter (·.enabled)) part) (m.keys.map ref) parts := by
    intro rs hrs
    obtain ⟨parts, hflatten, hparts⟩ := Contents.toRecords_of_records hrs
    refine ⟨parts, hflatten, ?_⟩
    rw [SortedMap.keys, List.map_map, List.forall₂_map_left_iff]
    refine ((List.forall₂_and_left _ _).2 ⟨hget, hparts⟩).imp ?_
    rintro f part ⟨hset, hread⟩
    exact ⟨f.1.type, f.2, rfl, hset, NativeSet.isRead_of_readMembers hread⟩
  refine ⟨herror, ?_, hok⟩
  have hfails : (∃ e, Contents.records zone m.entries = .error e) ↔
      ¬ ∃ rs, Contents.records zone m.entries = .ok rs := by
    cases Contents.records zone m.entries <;> simp
  rw [hfails, Contents.records_ok_iff]
  simp only [NativeSet.toRecords, NativeSet.readMembers_ok_iff]
  push Not
  constructor
  · rintro ⟨f, hf, hmalformed⟩
    exact ⟨_, _, _, hget f hf, hmalformed⟩
  · rintro ⟨name, type, set, hset, hmalformed⟩
    exact ⟨_, hlabel hset, hmalformed⟩

theorem consistent (nameservers : List String) (s : Store) : s.Consistent nameservers where
  respelled c d hspelled := by
    obtain ⟨hc, hc'⟩ := s.answer_canonical nameservers c
    obtain ⟨hd, hd'⟩ := s.answer_canonical nameservers d
    rw [hspelled] at hc hc'
    exact ⟨hc.symm.trans hd, hc'.symm.trans hd'⟩
  seeded zone name type set := ⟨s.sets_seed zone name type set, fun _ => hosts_setContents⟩
  written o hdone := by
    rw [answer_call] at hdone ⊢
    cases hperform : s.perform o with
    | error e =>
      rw [hperform] at hdone
      cases hdone
    | ok t => exact sets_of_perform hperform
  read := by
    rintro zone ⟨m, hm⟩
    refine ⟨_, lists_of_contents hm, fun capabilities config scheduler clock notices => ?_⟩
    have hreads := (serves nameservers capabilities).shows.reads_fetchObserved
      (r := ⟨_, config, scheduler⟩) hm ⟨s, clock, notices⟩ trivial rfl
    obtain ⟨hresult, -, hprovider⟩ := hreads
    exact ⟨hresult ▸ fetched_of_contents hm, hprovider⟩

/-- Behind any history of calls and seeds all ways to the store agree on its entries, and a
history that differs in the spelling of names only leads to the same store. -/
theorem consistent_after (nameservers : List String) (s : Store) (deeds : List Deed) :
    (s.after nameservers deeds).Consistent nameservers ∧
      ∀ others : List Deed, others.map Deed.canonical = deeds.map Deed.canonical →
        s.after nameservers others = s.after nameservers deeds := by
  refine ⟨consistent nameservers _, fun others hspelled => ?_⟩
  rw [← after_canonical, hspelled, after_canonical]

/-- A set is created and replaced in one zone, one member of it is disabled and has no layout,
and a set without members is put beside it. -/
private def history (zone zone' name name' : String) : List Deed :=
  [.call (.createZone zone),
    .call (.create zone' name .a ⟨300, [⟨[.string "192.0.2.1"], true⟩]⟩),
    .call (.update zone name' .a ⟨60, [⟨[.string "192.0.2.2"], true⟩, ⟨[], false⟩]⟩),
    .seed zone' name .txt ⟨60, []⟩]

private def mixedHistory : List Deed :=
  history "Example.com" "example.com." "WWW.example.com" "www.example.com."

private def otherHistory : List Deed :=
  history "example.COM" "EXAMPLE.com" "www.example.com" "Www.Example.com."

private def mixedStore : Store := empty.after [] mixedHistory

private def mixedFetch : Except Error (List Record) × Session Store :=
  let r : Reconciler Store := ⟨provider [], default, Scheduler.virtualTime⟩
  r.fetchObserved "EXAMPLE.COM" ⟨mixedStore, 0, []⟩

/-- One set is listed for all spellings and read without its disabled member. -/
theorem consistent_after_respelled :
    (Call.get "EXAMPLE.com" "Www.example.com" .a).canonical =
      (Call.get "example.com" "www.Example.com." .a).canonical ∧
    (answer [] (.get "EXAMPLE.com" "Www.example.com" .a) mixedStore).1.toOption =
      (answer [] (.get "example.com" "www.Example.com." .a) mixedStore).1.toOption ∧
    mixedStore.Hosts "EXAMPLE.COM" ∧
    (∃ refs, refs = [⟨"www.example.com.", "A"⟩, ⟨"www.example.com.", "TXT"⟩] ∧
      mixedStore.Lists "EXAMPLE.COM" refs ∧
      mixedFetch.1 = .ok [.new "example.com" "www.example.com" 60 (.a ⟨192, 0, 2, 2⟩)] ∧
      mixedStore.Fetched "EXAMPLE.COM" refs mixedFetch.1) ∧
    otherHistory.map Deed.canonical = mixedHistory.map Deed.canonical ∧
    empty.after [] otherHistory = mixedStore := by
  have hconsistent := consistent_after [] empty mixedHistory
  have hcall : (Call.get "EXAMPLE.com" "Www.example.com" .a).canonical =
      (Call.get "example.com" "www.Example.com." .a).canonical := by
    have hzone : fqdn "EXAMPLE.com" = fqdn "example.com" := by decide +kernel
    have hname : fqdn "Www.example.com" = fqdn "www.Example.com." := by decide +kernel
    rw [Call.canonical, Call.canonical, hzone, hname]
  have hspelled : otherHistory.map Deed.canonical = mixedHistory.map Deed.canonical := by
    have hzone : fqdn "example.COM" = fqdn "Example.com" := by decide +kernel
    have hzone' : fqdn "EXAMPLE.com" = fqdn "example.com." := by decide +kernel
    have hname : fqdn "www.example.com" = fqdn "WWW.example.com" := by decide +kernel
    have hname' : fqdn "Www.Example.com." = fqdn "www.example.com." := by decide +kernel
    simp only [otherHistory, mixedHistory, history, List.map_cons, List.map_nil, Deed.canonical,
      Call.canonical, hzone, hzone', hname, hname']
  have hhosts : mixedStore.Hosts "EXAMPLE.COM" :=
    Option.isSome_iff_exists.1 (by decide +kernel)
  have hlisted : (mixedStore.list "EXAMPLE.COM").toOption =
      some [⟨"www.example.com.", "A"⟩, ⟨"www.example.com.", "TXT"⟩] := by decide +kernel
  have hfetched : mixedFetch.1.toOption =
      some [.new "example.com" "www.example.com" 60 (.a ⟨192, 0, 2, 2⟩)] := by decide +kernel
  obtain ⟨refs, hlists, hfetch⟩ := hconsistent.1.read _ hhosts
  have hrefs : refs = [⟨"www.example.com.", "A"⟩, ⟨"www.example.com.", "TXT"⟩] := by
    rw [mixedStore, hlists.listed] at hlisted
    exact Option.some.inj hlisted
  have hread : mixedFetch.1 =
      .ok [.new "example.com" "www.example.com" 60 (.a ⟨192, 0, 2, 2⟩)] := by
    cases hresult : mixedFetch.1 with
    | error e =>
      rw [hresult] at hfetched
      cases hfetched
    | ok rs =>
      rw [hresult] at hfetched
      exact congrArg _ (Option.some.inj hfetched)
  exact ⟨hcall, (hconsistent.1.respelled _ _ hcall).1, hhosts,
    ⟨refs, hrefs, hlists, hread, (hfetch _ _ _ _ _).1⟩, hspelled, hconsistent.2 _ hspelled⟩

end Store

end DnsReconcile
