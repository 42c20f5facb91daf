import DnsReconcile.Proofs.Observed

/-!
What a successful plan has asked.

Whatever the provider answers, a plan that succeeds was computed from the records
it observed and from the name servers that were reported right after
(`exists_of_plan_eq_ok`). The provider may be any, and no two of its answers need
to agree.
-/

namespace DnsReconcile

variable {σ : Type}

namespace Run

variable {α β : Type} {s t : Session σ}

theorem bind_eq_ok_iff {m : Run σ α} {k : α → Run σ β} {b : β} :
    (m >>= k) s = (.ok b, t) ↔ ∃ a u, m s = (.ok a, u) ∧ k a u = (.ok b, t) := by
  rw [bind_apply]
  constructor
  · intro h
    split at h
    · rename_i a u hm
      exact ⟨a, u, hm, h⟩
    · cases h
  · rintro ⟨a, u, hm, hk⟩
    rw [hm]
    exact hk

theorem lift_eq_ok_iff {e : Except Error α} {a : α} :
    (liftM e : Run σ α) s = (.ok a, t) ↔ e = .ok a ∧ t = s := by
  cases e with
  | error err =>
    constructor
    · intro h
      cases h
    · rintro ⟨h, -⟩
      cases h
  | ok b =>
    change (Except.ok b, s) = (.ok a, t) ↔ _
    rw [Prod.mk.injEq, eq_comm (a := s)]

end Run

namespace Reconciler

variable {r : Reconciler σ} {zone : String} {desired observed : List Record}
  {s t : Session σ}

theorem fetch_eq_ok {α : Type} {context : String} {c : Call α} {a : α}
    (h : r.fetch context c s = (.ok a, t)) : (r.provider.answer c s.provider).1 = .ok a := by
  have hmapped : ((r.ask c s).1.mapError
      (fun e => Error.fetch s!"{context}: {e.message}")) = .ok a := congrArg Prod.fst h
  change ((r.provider.answer c s.provider).1.mapError _) = _ at hmapped
  cases hanswer : (r.provider.answer c s.provider).1 with
  | error e =>
    rw [hanswer] at hmapped
    cases hmapped
  | ok b =>
    rw [hanswer] at hmapped
    exact hmapped

/-- A zone that declares no apex name servers is compared with those that the
provider reports. -/
theorem exists_of_withApexNameservers_eq_ok {both : List Record × List Record}
    (h : r.withApexNameservers zone desired observed s = (.ok both, t)) :
    ∃ nameservers, both = sides zone r.provider.capabilities nameservers desired observed ∧
      ((∀ rec ∈ desired, rec.label ≠ apexLabel zone) →
        (r.provider.answer (.nameservers zone) s.provider).1 = .ok nameservers) := by
  unfold withApexNameservers at h
  by_cases hdeclared : ∃ rec ∈ desired, rec.label = apexLabel zone
  · have hany : desired.any (fun rec => rec.label = apexLabel zone) = true := by
      simpa using hdeclared
    rw [if_pos hany] at h
    refine ⟨[], ?_, fun hnone => ?_⟩
    · rw [sides_of_declared hdeclared]
      exact (Except.ok.inj (congrArg Prod.fst h)).symm
    · obtain ⟨rec, hrec, hapex⟩ := hdeclared
      exact absurd hapex (hnone rec hrec)
  · have hany : ¬ desired.any (fun rec => rec.label = apexLabel zone) = true := by
      simpa using hdeclared
    rw [if_neg hany] at h
    obtain ⟨nameservers, u, hasked, hmerged⟩ := Run.bind_eq_ok_iff.1 h
    refine ⟨nameservers, ?_, fun _ => fetch_eq_ok hasked⟩
    rw [sides, if_neg hany]
    exact (Except.ok.inj (congrArg Prod.fst hmerged)).symm

/-- What a plan that succeeds has been computed from. -/
theorem exists_of_plan_eq_ok {domain : Domain} {cs : List Correction}
    (h : r.plan domain s = (.ok cs, t)) :
    ∃ observed u nameservers, r.observe domain.zone.text s = (.ok observed, u) ∧
      ((∀ rec ∈ domain.desiredRecords, rec.label ≠ apexLabel domain.zone.text) →
        (r.provider.answer (.nameservers domain.zone.text) u.provider).1 = .ok nameservers) ∧
      Correction.compute domain.zone.text
        (sides domain.zone.text r.provider.capabilities nameservers domain.desiredRecords
          observed).1
        (sides domain.zone.text r.provider.capabilities nameservers domain.desiredRecords
          observed).2 r.provider.capabilities = .ok cs := by
  rw [plan_eq_observe] at h
  obtain ⟨_, s', haudit, hrest⟩ := Run.bind_eq_ok_iff.1 h
  obtain ⟨observed, u, hobserved, hrest'⟩ := Run.bind_eq_ok_iff.1 hrest
  obtain ⟨both, v, hboth, hrest''⟩ := Run.bind_eq_ok_iff.1 hrest'
  obtain ⟨planned, w, hplanned, htold⟩ := Run.bind_eq_ok_iff.1 hrest''
  rw [(Run.lift_eq_ok_iff.1 haudit).2] at hobserved
  obtain ⟨nameservers, rfl, hasked⟩ := exists_of_withApexNameservers_eq_ok hboth
  have hcs : planned = cs := by
    split at htold
    all_goals
      obtain ⟨_, _, -, hreturn⟩ := Run.bind_eq_ok_iff.1 htold
      exact Except.ok.inj (congrArg Prod.fst hreturn)
  subst hcs
  exact ⟨observed, u, nameservers, hobserved, hasked, (Run.lift_eq_ok_iff.1 hplanned).1⟩

end Reconciler

end DnsReconcile
