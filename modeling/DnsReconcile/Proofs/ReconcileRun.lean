import DnsReconcile.Proofs.Observation

/-!
The ways a reconciliation can take.

Each way is a constructor that tells how far the run came: it may end at the audit, at the
zone or at the plan, with an error, or it applies the plan (`reconcile_cases`). How a zone
is made to exist is told in the same way (`ensureZone_cases`).
-/

namespace DnsReconcile

variable {σ : Type}

namespace Reconciler

/-- How a zone is made to exist: what this comes to, with the session behind it. -/
inductive Ensures (r : Reconciler σ) (zone : String) (s : Session σ) :
    Except Error Bool × Session σ → Prop where
  | unknown {e : Error} {t : Session σ} (hcheck : r.zoneExists zone s = (.error e, t)) :
      Ensures r zone s (.error e, t)
  | hosted {t : Session σ} (hcheck : r.zoneExists zone s = (.ok true, t)) :
      Ensures r zone s (.ok false, t)
  | disallowed {t : Session σ} (hcheck : r.zoneExists zone s = (.ok false, t))
      (hoff : r.config.createMissingZones = false) :
      Ensures r zone s
        (.error (.notFound s!"zone {zone} does not exist and create_missing_zones is off"), t)
  | failed {e : Error} {t u : Session σ} (hcheck : r.zoneExists zone s = (.ok false, t))
      (hon : r.config.createMissingZones = true)
      (hcreate : r.ask (.createZone zone) t = (.error e, u)) : Ensures r zone s (.error e, u)
  | created {t u : Session σ} (hcheck : r.zoneExists zone s = (.ok false, t))
      (hon : r.config.createMissingZones = true)
      (hcreate : r.ask (.createZone zone) t = (.ok (), u)) :
      Ensures r zone s (.ok true, u.emit (.zoneCreated zone))

theorem ensureZone_cases (r : Reconciler σ) (zone : String) (s : Session σ) :
    r.Ensures zone s (r.ensureZone zone s) := by
  unfold ensureZone
  rw [Run.bind_apply]
  cases hcheck : r.zoneExists zone s with
  | mk result t =>
    cases result with
    | error e => exact .unknown hcheck
    | ok hosted =>
      cases hosted with
      | true => exact .hosted hcheck
      | false =>
        cases hon : r.config.createMissingZones with
        | false => exact .disallowed hcheck hon
        | true =>
          change r.Ensures zone s
            ((r.ask (.createZone zone) >>= fun _ => do
              tell (.zoneCreated zone)
              return true) t)
          rw [Run.bind_apply]
          cases hcreate : r.ask (.createZone zone) t with
          | mk result u =>
            cases result with
            | error e => exact .failed hcheck hon hcreate
            | ok _ => exact .created hcheck hon hcreate

/-- How a domain is reconciled: what this comes to, with the session behind it. -/
inductive Reconciles (r : Reconciler σ) (domain : Domain) (s : Session σ) :
    Except Error Report × Session σ → Prop where
  | refused {e : Error} (haudit : r.provider.capabilities.audit domain.desiredRecords = .error e) :
      Reconciles r domain s (.error e, s.emit (.started domain.zone.text))
  | unhosted {e : Error} {t : Session σ}
      (haudit : r.provider.capabilities.audit domain.desiredRecords = .ok ())
      (hzone : r.ensureZone domain.zone.text (s.emit (.started domain.zone.text)) =
        (.error e, t)) : Reconciles r domain s (.error e, t)
  | unplanned {e : Error} {t u : Session σ} {isNew : Bool}
      (haudit : r.provider.capabilities.audit domain.desiredRecords = .ok ())
      (hzone : r.ensureZone domain.zone.text (s.emit (.started domain.zone.text)) =
        (.ok isNew, t))
      (hplan : r.plan domain t = (.error e, u)) : Reconciles r domain s (.error e, u)
  | applied {t u : Session σ} {isNew : Bool} {cs : List Correction}
      (haudit : r.provider.capabilities.audit domain.desiredRecords = .ok ())
      (hzone : r.ensureZone domain.zone.text (s.emit (.started domain.zone.text)) =
        (.ok isNew, t))
      (hplan : r.plan domain t = (.ok cs, u)) :
      Reconciles r domain s
        (.ok (r.apply domain.zone.text cs u).1, (r.apply domain.zone.text cs u).2)

theorem reconcile_cases (r : Reconciler σ) (domain : Domain) (s : Session σ) :
    r.Reconciles domain s (r.reconcile domain s) := by
  have htold : tell (.started domain.zone.text) s =
      (.ok (), s.emit (.started domain.zone.text)) := rfl
  unfold reconcile
  rw [Run.bind_apply, htold]
  simp only
  rw [Run.bind_apply]
  cases haudit : r.provider.capabilities.audit domain.desiredRecords with
  | error e => exact .refused haudit
  | ok _ =>
    change r.Reconciles domain s ((r.ensureZone domain.zone.text >>= fun _ => do
      let corrections ← r.plan domain
      r.apply domain.zone.text corrections) (s.emit (.started domain.zone.text)))
    rw [Run.bind_apply]
    cases hzone : r.ensureZone domain.zone.text (s.emit (.started domain.zone.text)) with
    | mk result t =>
      cases result with
      | error e => exact .unhosted haudit hzone
      | ok isNew =>
        simp only
        rw [Run.bind_apply]
        cases hplan : r.plan domain t with
        | mk result u =>
          cases result with
          | error e => exact .unplanned haudit hzone hplan
          | ok cs => exact .applied haudit hzone hplan

end Reconciler

end DnsReconcile
