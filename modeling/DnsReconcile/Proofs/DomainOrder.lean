import DnsReconcile.Cli
import DnsReconcile.Proofs.AcceptedConfig
import DnsReconcile.Proofs.Confinement

/-!
Domains one after the other.

The domains of a configuration are worked on in their order, whatever becomes of each. As
the work on a domain is confined to its zone (`Cli.confined_pushDomain`), and no two
domains of an accepted configuration are one zone, what a domain comes to is what it would
come to alone (`inTurn_results`), and the order makes no difference to the zones, to what
each domain comes to, or to the exit status (`Cli.domains_isolated`).
-/

namespace DnsReconcile

section InTurn

variable {δ S κ β α : Type}

/-- Does the work on the members of a list one after the other and notes what each comes
to. -/
def inTurn (work : δ → S → α × S) : List δ → S → List (δ × α) × S
  | [], s => ([], s)
  | d :: rest, s =>
    let (a, s) := work d s
    let (others, s) := inTurn work rest s
    ((d, a) :: others, s)

variable {part : S → κ → β} {key : δ → κ} {work : δ → S → α × S}

theorem part_inTurn_of_notMem (hwork : ∀ d, Confined part (key d) (work d)) {ds : List δ} {k : κ}
    (hk : k ∉ ds.map key) (s : S) : part (inTurn work ds s).2 k = part s k := by
  induction ds generalizing s with
  | nil => rfl
  | cons d rest ih =>
    rw [List.map_cons, List.mem_cons, not_or] at hk
    exact (ih hk.2 (work d s).2).trans ((hwork d).others s k hk.1)

/-- Work that is confined to different places comes to what it would come to alone. -/
theorem inTurn_results (hwork : ∀ d, Confined part (key d) (work d)) {ds : List δ}
    (hkeys : (ds.map key).Nodup) (s : S) :
    (inTurn work ds s).1 = ds.map (fun d => (d, (work d s).1)) := by
  induction ds generalizing s with
  | nil => rfl
  | cons d rest ih =>
    rw [List.map_cons, List.nodup_cons] at hkeys
    have hrest : (inTurn work rest (work d s).2).1 = rest.map (fun e => (e, (work e s).1)) := by
      rw [ih hkeys.2]
      refine List.map_congr_left (fun e he => ?_)
      have hplace : key e ≠ key d := fun heq => hkeys.1 (heq ▸ List.mem_map_of_mem he)
      rw [(hwork e).result _ _ ((hwork d).others s _ hplace)]
    exact congrArg ((d, (work d s).1) :: ·) hrest

/-- Every place is left as the work that is confined to it leaves it alone. -/
theorem part_inTurn_of_mem (hwork : ∀ d, Confined part (key d) (work d)) {ds : List δ}
    (hkeys : (ds.map key).Nodup) {d : δ} (hd : d ∈ ds) (s : S) :
    part (inTurn work ds s).2 (key d) = part (work d s).2 (key d) := by
  induction ds generalizing s with
  | nil => cases hd
  | cons e rest ih =>
    rw [List.map_cons, List.nodup_cons] at hkeys
    rcases List.mem_cons.1 hd with rfl | hd
    · exact part_inTurn_of_notMem hwork hkeys.1 (work d s).2
    · have hplace : key d ≠ key e := fun heq => hkeys.1 (heq ▸ List.mem_map_of_mem hd)
      exact (ih hkeys.2 hd (work e s).2).trans
        ((hwork d).own _ _ ((hwork e).others s _ hplace))

/-- The order of work that is confined to different places makes no difference. -/
theorem inTurn_perm (hwork : ∀ d, Confined part (key d) (work d)) {ds es : List δ}
    (hkeys : (ds.map key).Nodup) (h : es.Perm ds) (s : S) :
    (inTurn work es s).1.Perm (inTurn work ds s).1 ∧
      ∀ k, part (inTurn work es s).2 k = part (inTurn work ds s).2 k := by
  have hkeys' : (es.map key).Nodup := (h.map key).nodup_iff.2 hkeys
  constructor
  · rw [inTurn_results hwork hkeys, inTurn_results hwork hkeys']
    exact h.map _
  · intro k
    by_cases hk : k ∈ ds.map key
    · obtain ⟨d, hd, rfl⟩ := List.mem_map.1 hk
      rw [part_inTurn_of_mem hwork hkeys hd, part_inTurn_of_mem hwork hkeys' (h.mem_iff.2 hd)]
    · have hk' : k ∉ es.map key := fun hmem => hk ((h.map key).mem_iff.1 hmem)
      rw [part_inTurn_of_notMem hwork hk, part_inTurn_of_notMem hwork hk']

end InTurn

namespace Cli

variable {σ β : Type}

structure DomainResult where
  /-- What its reconciliation comes to. -/
  report : Except Error Report
  output : Output
  wentWell : Bool

def pushDomain (r : Reconciler σ) (d : Domain) (s : Session σ) : DomainResult × Session σ :=
  let (output, wentWell, t) := runDomain r .push d s
  (⟨(r.reconcile d s).1, output, wentWell⟩, t)

/-- What the domains of a run come to, in the order in which they are worked on. -/
def pushResults (r : Reconciler σ) (ds : List Domain) (s : Session σ) :
    List (Domain × DomainResult) :=
  (inTurn (pushDomain r) ds s).1

/-- A run works on its domains in turn, and went well if all of them did. -/
theorem runDomains_eq_inTurn (r : Reconciler σ) (ds : List Domain) (s : Session σ) :
    runDomains r .push ds s =
      ((pushResults r ds s).foldr (fun e out => e.2.output ++ out) {},
        if (pushResults r ds s).all (·.2.wentWell) then .success else .runtimeError,
        (inTurn (pushDomain r) ds s).2) := by
  unfold pushResults
  induction ds generalizing s with
  | nil => rfl
  | cons d rest ih =>
    simp only [runDomains, inTurn, pushDomain, ih, List.foldr_cons, List.all_cons,
      Bool.and_eq_true, ite_and]

/-- A computation that also writes, with all that it comes to on one side. -/
private def noted {α γ S : Type} (m : S → γ × α × S) : S → (γ × α) × S := fun s =>
  (((m s).1, (m s).2.1), (m s).2.2)

private def concluded (d : Domain) (output : Output) (named : Output × Except Error Unit) :
    Output × Bool :=
  match named.2 with
  | .error e => (output ++ named.1 ++ .logged .error s!"{d.name}: {e.message}", false)
  | .ok () => (output ++ named.1, true)

/-- What is left to do for a domain once its corrections are through: to report a failure,
or else to ask for its name servers. -/
private def finishDomain (r : Reconciler σ) (d : Domain) (output : Output) :
    Except Error Unit → Session σ → (Output × Bool) × Session σ
  | .error e => fun s => ((output ++ .logged .error s!"{d.name}: {e.message}", false), s)
  | .ok () => fun s =>
    (concluded d output (noted (runNameservers r d) s).1, (noted (runNameservers r d) s).2)

section Push

variable {r : Reconciler σ} {part : σ → Name → β} (h : r.provider.KeepsApart part)
  (hsingle : r.config.maxParallel = 1) (d : Domain)

include h

theorem confined_runNameservers :
    Confined (Session.part part) d.zone (noted (runNameservers r d)) := by
  refine (h.ask (.nameservers d.name)).branch
    (fun names t => ((if names = [] then {} else .logged .info
      (s!"{d.name} nameservers: " ++ String.intercalate ", " names), .ok ()), t))
    (fun e t => (({}, .error e), t))
    (fun s names t hrun => ⟨?_, .pure _ _ _⟩) (fun s e t hrun => ⟨?_, .pure _ _ _⟩)
  · unfold noted runNameservers Reconciler.nameservers
    rw [hrun]
    cases names <;> rfl
  · unfold noted runNameservers Reconciler.nameservers
    rw [hrun]

include hsingle

theorem confined_runCorrections :
    Confined (Session.part part) d.zone (noted (runCorrections r .push d)) := by
  refine (h.reconcile hsingle d).branch
    (fun report t => ((.lines (pushLines r.provider.name report), report.result), t))
    (fun e t => (({}, .error e), t))
    (fun s report t hrun => ⟨?_, .pure _ _ _⟩) (fun s e t hrun => ⟨?_, .pure _ _ _⟩)
  · unfold noted runCorrections
    rw [hrun]
  · unfold noted runCorrections
    rw [hrun]

theorem confined_runDomain :
    Confined (Session.part part) d.zone (noted (runDomain r .push d)) := by
  refine (confined_runCorrections h hsingle d).seq
    (fun found => finishDomain r d
      (.line s!"******************** Domain: {d.name}" ++ found.1) found.2)
    (fun s => ?_) (fun s => ?_)
  · unfold noted runDomain
    rcases runCorrections r .push d s with ⟨output, _ | _, t⟩
    · rfl
    · simp only [finishDomain, noted]
      rcases runNameservers r d t with ⟨more, _ | _, u⟩ <;> rfl
  · rcases (noted (runCorrections r .push d) s).1 with ⟨output, e | u⟩
    · exact .pure _ _ _
    · exact (confined_runNameservers h d).map (concluded d _)

/-- The work on a domain is confined to its zone. -/
theorem confined_pushDomain : Confined (Session.part part) d.zone (pushDomain r d) := by
  have hrun := confined_runDomain h hsingle d
  refine ⟨fun s t heq => ?_, hrun.own, hrun.others⟩
  have hsame := hrun.result s t heq
  simp only [noted, Prod.mk.injEq] at hsame
  simp only [pushDomain, (h.reconcile hsingle d).result s t heq, hsame.1, hsame.2]

end Push

section Isolation

variable {r : Reconciler Store} {nameservers : List String} {capabilities : Capabilities}

/-- On a store and with one correction under way at a time, domains do not meet. A
reconciliation leaves every zone but that of its domain as it is. Domains of different
zones, such as an accepted configuration has, each come to what they would come to alone,
whatever becomes of the others, and in any other order the run ends with the same zones,
the same result for each domain and the same exit status. -/
theorem domains_isolated
    (hprovider : r.provider = { Store.provider nameservers with capabilities })
    (hsingle : r.config.maxParallel = 1) (s : Session Store) :
    (∀ (d : Domain) (zone : String), Name.ofString zone ≠ d.zone →
      (r.reconcile d s).2.provider.contents? zone = s.provider.contents? zone) ∧
    (∀ c : Config, c.validate = .ok () → (c.domains.map Domain.zone).Nodup) ∧
    ∀ ds : List Domain, (ds.map Domain.zone).Nodup →
      pushResults r ds s = ds.map (fun d => (d, (pushDomain r d s).1)) ∧
      ∀ es : List Domain, es.Perm ds →
        (runDomains r .push es s).2.2.provider = (runDomains r .push ds s).2.2.provider ∧
        (pushResults r es s).Perm (pushResults r ds s) ∧
        (runDomains r .push es s).2.1 = (runDomains r .push ds s).2.1 := by
  have hapart : r.provider.KeepsApart Store.zoneAt := by
    rw [hprovider]
    exact Store.keepsApart nameservers capabilities
  have hpush := confined_pushDomain hapart hsingle
  refine ⟨fun d zone hzone => ?_, fun c hc => Config.nodup_zones hc, fun ds hzones => ?_⟩
  · exact (hapart.reconcile hsingle d).others s _ hzone
  refine ⟨inTurn_results hpush hzones s, fun es hperm => ?_⟩
  obtain ⟨hresults, hparts⟩ := inTurn_perm hpush hzones hperm s
  rw [runDomains_eq_inTurn, runDomains_eq_inTurn]
  refine ⟨Store.ext_zoneAt hparts, hresults, ?_⟩
  have hall : (pushResults r es s).all (·.2.wentWell) =
      (pushResults r ds s).all (·.2.wentWell) := hresults.all_eq
  rw [hall]

private def oneAtATime : Reconciler Store where
  provider := Store.provider ["ns1.example.net"]
  config := { maxParallel := 1 }
  scheduler := .virtualTime

private def twoAddresses : Domain where
  name := "example.com"
  records := [{ name := "www", data := .a ⟨1, 2, 3, 4⟩ }]

private def unevenTtls : Domain where
  name := "Example.org."
  records := [⟨"w", 60, .a ⟨1, 2, 3, 4⟩⟩, ⟨"w", 61, .a ⟨5, 6, 7, 8⟩⟩]

/-- A domain that fails, before and behind one that does not. -/
theorem domains_isolated_failing :
    (runDomains oneAtATime .push [unevenTtls, twoAddresses] (.start .empty)).2.2.provider =
      (runDomains oneAtATime .push [twoAddresses, unevenTtls] (.start .empty)).2.2.provider ∧
    (runDomains oneAtATime .push [unevenTtls, twoAddresses] (.start .empty)).2.1 =
      .runtimeError ∧
    ((runDomains oneAtATime .push [twoAddresses, unevenTtls] (.start .empty)).2.2.provider.lookup
      "example.com" (.new "www.example.com" .a)).isSome = true := by
  have hprovider : oneAtATime.provider =
      { Store.provider ["ns1.example.net"] with capabilities := {} } := rfl
  obtain ⟨-, -, hruns⟩ := domains_isolated hprovider rfl (.start .empty)
  obtain ⟨-, hperm⟩ := hruns [twoAddresses, unevenTtls] (by decide +kernel)
  obtain ⟨hzones, -, hstatus⟩ := hperm [unevenTtls, twoAddresses] (List.Perm.swap _ _ _)
  exact ⟨hzones, hstatus.trans (by decide +kernel), by decide +kernel⟩

end Isolation

end Cli

end DnsReconcile
