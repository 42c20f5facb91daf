import DnsReconcile.Proofs.Commutation
import DnsReconcile.Proofs.PlanRun
import DnsReconcile.Proofs.Progress

/-!
Concurrent application agrees with sequential application.

The corrections of one pass of a plan target different labels, and no pass both
creates and deletes, so they ignore each other unless two creations clash
(`independentPass_of_mem_passes`). A run that is not stopped by failures therefore
ends in the same way whatever its limit and its interleaving (`apply_oneAtATime`).
-/

namespace DnsReconcile

open Reconciler (indexed passes)

variable {σ τ : Type}

/-- Two corrections of one pass of a plan ignore each other, unless they create sets
that clash. -/
private theorem ignores_of_same_pass {cs : List Correction}
    (hcreates : ¬ CnameShared (· ∈ Correction.targets .added cs)) {c d : Correction}
    (hc : c ∈ cs) (hd : d ∈ cs) (hlabel : c.label ≠ d.label) (hpass : c.pass = d.pass) :
    c.operation.Ignores d.operation := by
  refine ⟨hlabel, fun hadded hname hclash => ?_⟩
  have hwrites : c.pass = .constructive :=
    (Correction.pass_eq_constructive_iff c).2 (by simp [Correction.kind, hadded])
  have hkept : d.kind ≠ .removed :=
    (Correction.pass_eq_constructive_iff d).1 (hpass.symm.trans hwrites)
  have hother : d.kind ≠ .added := by
    intro hkind
    have hfree := not_cnameShared_iff.1 hcreates c.label d.label
      (Correction.mem_targets.2 ⟨c, hc, hadded, rfl⟩)
      (Correction.mem_targets.2 ⟨d, hd, hkind, rfl⟩) hname.symm
    rw [Correction.label, Correction.label, hclash] at hfree
    cases hfree
  change d.kind = .modified
  cases hkind : d.kind with
  | added => exact absurd hkind hother
  | removed => exact absurd hkind hkept
  | modified => rfl

/-- The passes of a plan consist of independent corrections, also behind planned
failures. -/
theorem independentPass_of_mem_passes (nameservers : List String) {zone : String}
    {cs : List Correction} (hseparate : Separate zone cs)
    (hcreates : ¬ CnameShared (· ∈ Correction.targets .added cs))
    {pass : List (Nat × Correction)} (hpass : pass ∈ passes cs) :
    IndependentPass (Injected.attempt (Store.provider nameservers)) pass := by
  have hsublist : pass.Sublist (indexed 0 cs) := by
    rw [← Reconciler.flatten_passes]
    exact List.sublist_flatten_of_mem hpass
  have hlabels : (indexed 0 cs).Pairwise (fun e f => e.2.label ≠ f.2.label) := by
    have hnodup := hseparate.nodup
    rw [← Reconciler.map_snd_indexed 0 cs, List.map_map] at hnodup
    exact List.pairwise_map.1 hnodup
  refine ⟨(Reconciler.nodup_indexed cs).sublist (hsublist.map _), ?_⟩
  refine (hlabels.sublist hsublist).imp_of_mem (fun {e f} he hf hlabel => ?_)
  have hmem := fun {e} (he : e ∈ pass) => mem_of_mem_indexed (hsublist.subset he)
  have hsame := Reconciler.pass_eq_of_mem_passes hpass he hf
  have hzone := (hseparate.zone e.2 (hmem he)).trans (hseparate.zone f.2 (hmem hf)).symm
  have hleft := ignores_of_same_pass hcreates (hmem he) (hmem hf) hlabel hsame
  have hright := ignores_of_same_pass hcreates (hmem hf) (hmem he) hlabel.symm hsame.symm
  apply Injected.independent
  · exact fun htext => hlabel (Operation.label_eq_of_text_eq htext)
  · exact Store.independent hzone hleft hright

def Reconciler.oneAtATime (r : Reconciler σ) : Reconciler σ :=
  { r with config := { r.config with maxParallel := 1 } }

/-- Concurrent application agrees with sequential application. Let a plan, made on
any provider, create no two sets of one name with an alias among them. Applied to a
store with planned errors in front of it, under the policy that goes on after
failures, it ends with the same report, the same events, the same zones and the same
errors left as with one correction at a time, for any limit, any number of retries
and any interleaving. -/
theorem apply_oneAtATime {planner : Reconciler τ} {domain : Domain} {s t : Session τ}
    {cs : List Correction} (hplan : planner.plan domain s = (.ok cs, t))
    (hcreates : ¬ CnameShared (· ∈ Correction.targets .added cs))
    {r : Reconciler (Injected Store)} {name : String} {capabilities : Capabilities}
    {nameservers : List String}
    (hprovider : r.provider =
      Injected.provider name capabilities (Store.provider nameservers))
    (hpolicy : r.config.failurePolicy = .keepGoing) {u : Session (Injected Store)}
    (hfaults : ∀ f ∈ u.provider.faults, f.fault ≠ .crash) (zone : String) :
    (r.apply zone cs u).1 = (r.oneAtATime.apply zone cs u).1 ∧
      (r.apply zone cs u).2.events = (r.oneAtATime.apply zone cs u).2.events ∧
      (r.apply zone cs u).2.provider.inner = (r.oneAtATime.apply zone cs u).2.provider.inner ∧
      (r.apply zone cs u).2.provider.faults =
        (r.oneAtATime.apply zone cs u).2.provider.faults := by
  obtain ⟨_, _, _, -, -, hcompute⟩ := Reconciler.exists_of_plan_eq_ok hplan
  have hseparate := (Correction.ExactPlan.of_compute hcompute).separate
  have hmakes : r.provider.Makes Injected.quiet Injected.NoCrash
      (Injected.attempt (Store.provider nameservers)) := by
    rw [hprovider]
    exact Injected.makes name capabilities _
  obtain ⟨hreport, hevents, hview⟩ := Reconciler.apply_alike hmakes
    (show r.oneAtATime.provider = r.provider from rfl) rfl hpolicy hpolicy
    (fun _ hpass => independentPass_of_mem_passes nameservers hseparate hcreates hpass) zone
    hfaults
  have hinner := congrArg Injected.inner hview
  have hleft := congrArg Injected.faults hview
  exact ⟨hreport, hevents, hinner, hleft⟩

private def aliasedStore : Store :=
  (Store.empty.seed "example.com" "www.example.com" .a
    ⟨300, [{ content := [.string "9.9.9.9"] }]⟩).seed "example.com" "old.example.com" .cname
    ⟨300, [{ content := [.string "www.example.com"] }]⟩

private def threeAddresses : Domain :=
  { name := "example.com"
    records := [⟨"www", 300, .a ⟨1, 2, 3, 4⟩⟩, ⟨"old", 300, .a ⟨1, 2, 3, 4⟩⟩,
      ⟨"new", 300, .a ⟨1, 2, 3, 4⟩⟩] }

/-- The deletion of the alias fails for good, and the update of the address once. -/
private def flaky : Injected Store :=
  ((Injected.start aliasedStore).plan "delete old.example.com. CNAME" 5
    (.error (.provider "memory" "down"))).plan "update www.example.com. A" 1
    (.error (.provider "memory" "busy"))

/-- Starts what can be started, lets the newest task make its attempt and joins the
tasks in the opposite order of their end. -/
private def newestFirst : Scheduler (Injected Store) := fun pool =>
  if pool.canStart then .start
  else match pool.active.getLast? with
    | some t => .advance t.index
    | none => match pool.finished.getLast? with
      | some f => .join f.task.index
      | none => .start

private def parallelReconciler : Reconciler (Injected Store) where
  provider := Injected.provider "memory" {} (Store.provider [])
  config := { failurePolicy := .keepGoing, maxParallel := 3, maxRetries := 1 }
  scheduler := newestFirst

/-- An alias that could not be deleted stands in the way of an address, in whichever
order the calls are made. -/
theorem apply_oneAtATime_lingering_alias :
    ∃ cs t, parallelReconciler.plan threeAddresses (.start flaky) = (.ok cs, t) ∧
      cs.length = 4 ∧ (parallelReconciler.apply "example.com." cs t).1.applied = 2 ∧
      (parallelReconciler.apply "example.com." cs t).1.failures.map CorrectionFailure.index =
        [0, 2] ∧
      (parallelReconciler.apply "example.com." cs t).2.provider.calls ≠
        (parallelReconciler.oneAtATime.apply "example.com." cs t).2.provider.calls ∧
      (parallelReconciler.apply "example.com." cs t).1 =
        (parallelReconciler.oneAtATime.apply "example.com." cs t).1 ∧
      (parallelReconciler.apply "example.com." cs t).2.provider.inner =
        (parallelReconciler.oneAtATime.apply "example.com." cs t).2.provider.inner := by
  have hlength : (parallelReconciler.plan threeAddresses (.start flaky)).1.toOption.map
      (fun cs => (cs.length, (Correction.targets .added cs).map (fun l => l.type))) =
        some (4, [.a, .a]) := by
    decide +kernel
  have hruns : ∀ cs t, parallelReconciler.plan threeAddresses (.start flaky) = (.ok cs, t) →
      (parallelReconciler.apply "example.com." cs t).1.applied = 2 ∧
      (parallelReconciler.apply "example.com." cs t).1.failures.map CorrectionFailure.index =
        [0, 2] ∧
      (parallelReconciler.apply "example.com." cs t).2.provider.calls ≠
        (parallelReconciler.oneAtATime.apply "example.com." cs t).2.provider.calls := by
    intro cs t hplan
    have hcs : (parallelReconciler.plan threeAddresses (.start flaky)).1.toOption.getD [] = cs := by
      rw [hplan]
      rfl
    have ht : (parallelReconciler.plan threeAddresses (.start flaky)).2 = t := by rw [hplan]
    rw [← hcs, ← ht]
    decide +kernel
  generalize hplan : parallelReconciler.plan threeAddresses (.start flaky) = first at hlength
  obtain ⟨result, t⟩ := first
  cases result with
  | error e => cases hlength
  | ok cs =>
    obtain ⟨hcount, htypes⟩ := Prod.mk.inj (Option.some.inj hlength)
    have hcreates : ¬ CnameShared (· ∈ Correction.targets .added cs) := by
      rintro ⟨k, -, hk, -, -, hcname, -⟩
      have htype := List.mem_map_of_mem (f := fun l : Label => l.type) hk
      rw [htypes, hcname] at htype
      simp at htype
    obtain ⟨happlied, hfailed, hcalls⟩ := hruns cs t hplan
    have hfaults : ∀ f ∈ t.provider.faults, f.fault ≠ .crash := by
      have ht : (parallelReconciler.plan threeAddresses (.start flaky)).2 = t := by rw [hplan]
      rw [← ht]
      decide +kernel
    obtain ⟨hreport, -, hinner, -⟩ :=
      apply_oneAtATime (r := parallelReconciler) hplan hcreates rfl rfl hfaults "example.com."
    exact ⟨cs, t, rfl, hcount, happlied, hfailed, hcalls, hreport, hinner⟩

end DnsReconcile
