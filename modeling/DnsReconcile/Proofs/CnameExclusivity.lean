import DnsReconcile.Proofs.StoreWrites

/-!
A CNAME is alone under its name.

Writes are checked one by one, so that it takes an induction over the calls to see what
they keep out of a store: no zone of a store that was filled by calls alone, starting from
the store without zones, has a CNAME and another set under one name (`cname_alone`). Only
seeding, which nothing checks, can put the two side by side.
-/

namespace DnsReconcile

namespace Store

/-- No zone has a CNAME that shares its name. -/
def Exclusive (s : Store) : Prop := ∀ zone m, s.contents? zone = some m → m.Coexist

/-- The store behind writing calls, whatever becomes of each. -/
def written (nameservers : List String) (s : Store) (calls : List (Call Unit)) : Store :=
  calls.foldl (fun s c => (answer nameservers c s).2) s

theorem exclusive_empty : empty.Exclusive := by
  intro zone m hm
  cases hm

theorem Exclusive.setContents {s : Store} (h : s.Exclusive) (zone : String) {m : Contents}
    (hm : m.Coexist) : (s.setContents zone m).Exclusive := by
  intro other n hn
  rw [contents?_setContents] at hn
  split at hn
  · cases hn
    exact hm
  · exact h other n hn

/-- What a call makes of a store keeps a CNAME alone: a new zone has no sets yet, and an
operation is permitted beside those that its zone has. -/
theorem Exclusive.step {s t : Store} (h : s.Exclusive) {zone : String} (hstep : s.Step zone t) :
    t.Exclusive := by
  cases hstep with
  | refl => exact h
  | zone hmissing => exact h.setContents zone Contents.coexist_empty
  | set hm hpermitted => exact h.setContents zone ((h zone _ hm).effect hpermitted)

theorem Exclusive.written (nameservers : List String) {s : Store} (h : s.Exclusive)
    (calls : List (Call Unit)) : (s.written nameservers calls).Exclusive := by
  induction calls generalizing s with
  | nil => exact h
  | cons c rest ih => exact ih (h.step (s.step_answer nameservers c))

/-- Whatever calls were made on a store that had no zones, in whatever order and with
whatever success, no zone of it holds a CNAME and a set of another type under one name. -/
theorem cname_alone (nameservers : List String) (calls : List (Call Unit)) (zone : String) :
    ¬ CnameShared
      (fun l => ((empty.written nameservers calls).lookup zone l).isSome = true) := by
  have hexclusive := exclusive_empty.written nameservers calls
  rintro ⟨k, l, hk, hl, hshared⟩
  simp only [lookup, Option.isSome_iff_exists, Option.bind_eq_some_iff] at hk hl
  obtain ⟨_, m, hm, hk⟩ := hk
  obtain ⟨_, n, hn, hl⟩ := hl
  rw [hm] at hn
  cases hn
  exact Contents.coexist_iff.1 (hexclusive zone m hm) ⟨k, l, SortedMap.mem_keys_iff.2 ⟨_, hk⟩,
    SortedMap.mem_keys_iff.2 ⟨_, hl⟩, hshared⟩

private def aliasFirst : List (Call Unit) :=
  [.createZone "Example.com", .create "example.com" "www.example.com" .cname default,
    .create "example.com." "WWW.example.com." .a default,
    .update "example.com" "www.example.com" .txt default]

/-- Once a name has a CNAME, a set of another type is refused under any spelling of it. -/
theorem cname_alone_aliased :
    ¬ CnameShared (fun l => ((empty.written [] aliasFirst).lookup "example.com" l).isSome = true) ∧
      ((empty.written [] aliasFirst).lookup "EXAMPLE.com" (.new "www.example.com" .cname)).isSome ∧
      (empty.written [] aliasFirst).lookup "example.com" (.new "www.example.com" .a) = none :=
  ⟨cname_alone [] aliasFirst "example.com", by decide +kernel, by decide +kernel⟩

end Store

end DnsReconcile
