import DnsReconcile.Proofs.Application
import DnsReconcile.Proofs.Fronting
import DnsReconcile.Proofs.Planning

/-!
How far the application of a plan has come.

As no label is targeted twice, the record sets of the zone tell which corrections
were applied, in whatever order: a label holds what its correction writes if that
was applied, and what it held before otherwise (`Progress`). On a provider in
front of a store every attempt keeps this (`keeps_progress`).
-/

namespace DnsReconcile

open Reconciler (indexed)

variable {σ : Type}

/-- In the store `now`, the corrections at the places `A` of the list have been
applied to what the store held `before`. -/
structure Progress (zone : String) (cs : List Correction) (before : Store) (A : Set Nat)
    (now : Store) : Prop where
  done : ∀ e ∈ indexed 0 cs, e.1 ∈ A → now.lookup zone e.2.label = e.2.operation.action.set?
  kept : ∀ l, (∀ e ∈ indexed 0 cs, e.1 ∈ A → e.2.label ≠ l) →
    now.lookup zone l = before.lookup zone l

/-- Corrections of one zone, none of which share a label. -/
structure Separate (zone : String) (cs : List Correction) : Prop where
  zone : ∀ c ∈ cs, Name.ofString c.operation.zone = Name.ofString zone
  nodup : (cs.map Correction.label).Nodup

theorem Correction.ExactPlan.separate {zone : String} {desired observed : List Record}
    {capabilities : Capabilities} {cs : List Correction}
    (h : ExactPlan zone desired observed capabilities cs) : Separate zone cs where
  zone := fun c hc => by
    rw [h.zone c hc]
    exact Name.ofString_text (.ofString zone)
  nodup := h.nodup

section Places

variable {zone : String} {cs : List Correction} {e f : Nat × Correction}

theorem mem_of_mem_indexed (he : e ∈ indexed 0 cs) : e.2 ∈ cs := by
  rw [← Reconciler.map_snd_indexed 0 cs]
  exact List.mem_map_of_mem he

theorem exists_place {c : Correction} (hc : c ∈ cs) : ∃ i, (i, c) ∈ indexed 0 cs := by
  rw [← Reconciler.map_snd_indexed 0 cs] at hc
  obtain ⟨⟨i, d⟩, he, rfl⟩ := List.mem_map.1 hc
  exact ⟨i, he⟩

theorem eq_of_place_eq (he : e ∈ indexed 0 cs) (hf : f ∈ indexed 0 cs) (h : e.1 = f.1) :
    e = f :=
  List.inj_on_of_nodup_map (Reconciler.nodup_indexed cs) he hf h

theorem Separate.eq_of_label_eq (h : Separate zone cs) (he : e ∈ indexed 0 cs)
    (hf : f ∈ indexed 0 cs) (hlabel : e.2.label = f.2.label) : e = f := by
  have hnodup : ((indexed 0 cs).map (fun e => e.2.label)).Nodup := by
    have hmap : (indexed 0 cs).map (fun e => e.2.label) = cs.map Correction.label := by
      conv => rhs; rw [← Reconciler.map_snd_indexed 0 cs, List.map_map]
      rfl
    rw [hmap]
    exact h.nodup
  exact List.inj_on_of_nodup_map hnodup he hf hlabel

end Places

namespace Progress

variable {zone : String} {cs : List Correction} {before now next : Store} {A : Set Nat}

theorem start (zone : String) (cs : List Correction) (before : Store) :
    Progress zone cs before ∅ before :=
  ⟨fun _ _ hmem => absurd hmem (Set.notMem_empty _), fun _ _ => rfl⟩

/-- A correction that is applied changes its own label, which no other correction
targets. -/
theorem step (h : Progress zone cs before A now) (hseparate : Separate zone cs)
    {e : Nat × Correction} (he : e ∈ indexed 0 cs)
    (hperform : now.perform e.2.operation = .ok next) :
    Progress zone cs before (insert e.1 A) next := by
  have hlookup := Store.lookup_perform hperform (hseparate.zone e.2 (mem_of_mem_indexed he))
  constructor
  · rintro f hf hmem
    rw [hlookup]
    by_cases hlabel : f.2.label = e.2.label
    · obtain rfl := hseparate.eq_of_label_eq hf he hlabel
      exact if_pos rfl
    · have hplace : f.1 ∈ A := by
        refine (Set.mem_insert_iff.1 hmem).resolve_left (fun hplace => hlabel ?_)
        rw [eq_of_place_eq hf he hplace]
      exact (if_neg hlabel).trans (h.done f hf hplace)
  · intro l hl
    have hne : l ≠ e.2.operation.label :=
      fun heq => hl e he (Set.mem_insert _ _) heq.symm
    rw [hlookup, if_neg hne]
    exact h.kept l (fun f hf hmem => hl f hf (Set.mem_insert_of_mem _ hmem))

/-- The labels that the zone has now. -/
theorem mem_keys_of_applied (h : Progress zone cs before A now) {m : Contents}
    (hm : now.contents? zone = some m) {e : Nat × Correction} (he : e ∈ indexed 0 cs)
    (hA : e.1 ∈ A) : e.2.label ∈ m.keys ↔ e.2.kind ≠ .removed := by
  have hdone := h.done e he hA
  rw [Store.lookup_of_contents hm] at hdone
  rw [SortedMap.mem_keys_iff, hdone, Correction.kind]
  cases e.2.operation.action <;> simp [Action.set?, Action.kind]

theorem mem_keys_of_not_applied (h : Progress zone cs before A now) {m n : Contents}
    (hm : before.contents? zone = some m) (hn : now.contents? zone = some n) {l : Label}
    (hl : ∀ e ∈ indexed 0 cs, e.1 ∈ A → e.2.label ≠ l) : l ∈ n.keys ↔ l ∈ m.keys := by
  have hkept := h.kept l hl
  rw [Store.lookup_of_contents hm, Store.lookup_of_contents hn] at hkept
  rw [SortedMap.mem_keys_iff, SortedMap.mem_keys_iff, hkept]

end Progress

/-- Whatever fails, the store holds the effects of the corrections that were
applied and nothing else. -/
theorem keeps_progress {p : Provider σ} {nameservers : List String} {view : σ → Store}
    {Good : σ → Prop} (hfronts : p.Fronts nameservers view Good) {zone : String}
    {cs : List Correction} (hseparate : Separate zone cs) (before : Store)
    {e : Nat × Correction} (he : e ∈ indexed 0 cs) :
    Keeps p (fun A s => Good s ∧ Progress zone cs before A (view s)) (fun _ => True) e.1 e.2 where
  death := by
    rintro A s t - ⟨hgood, -⟩ hcrash
    rw [hfronts.alive _ s hgood] at hcrash
    cases hcrash
  success := by
    rintro A s t - ⟨hgood, hprogress⟩ happly
    have hgood' := hfronts.good_apply hgood e.2
    rcases hfronts.apply hgood e.2 with ⟨⟨_, herror⟩, -⟩ | ⟨-, hperform⟩
    · rw [happly] at herror
      cases herror
    · rw [happly] at hperform hgood'
      exact ⟨trivial, hgood', hprogress.step hseparate he hperform⟩
  failure := by
    rintro A s t err - ⟨hgood, hprogress⟩ happly
    have hgood' := hfronts.good_apply hgood e.2
    rcases hfronts.apply hgood e.2 with ⟨-, hview⟩ | ⟨hok, -⟩
    · rw [happly] at hview hgood'
      exact ⟨trivial, hgood', hview ▸ hprogress⟩
    · rw [happly] at hok
      cases hok

end DnsReconcile
