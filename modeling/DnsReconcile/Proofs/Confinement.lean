import DnsReconcile.Proofs.PlanRun
import DnsReconcile.Proofs.Progress
import DnsReconcile.Proofs.RunParts

/-!
What a reconciliation reads and writes.

A computation is confined to one place of its state if its result and what it leaves there
depend on nothing but what was there, and every other place stays as it is (`Confined`).
On a provider that keeps its zones apart, a call is confined to the zone that it is about
(`Provider.KeepsApart`). All calls of a reconciliation are about the zone of its domain,
the writes among them because planning gives every operation that zone, so a
reconciliation that has one correction under way at a time is confined to it
(`KeepsApart.reconcile`). The store keeps its zones apart (`Store.keepsApart`).
-/

namespace DnsReconcile

section Confined

variable {S κ β α γ : Type} {part : S → κ → β} {k : κ} {m : S → α × S}

/-- The result of `m` and what it leaves at `k` depend on what the state has at `k`, and
nothing changes elsewhere. -/
structure Confined (part : S → κ → β) (k : κ) (m : S → α × S) : Prop where
  result : ∀ s t, part s k = part t k → (m s).1 = (m t).1
  own : ∀ s t, part s k = part t k → part (m s).2 k = part (m t).2 k
  others : ∀ s l, l ≠ k → part (m s).2 l = part s l

namespace Confined

theorem pure (part : S → κ → β) (k : κ) (a : α) : Confined part k (fun s => (a, s)) :=
  ⟨fun _ _ _ => rfl, fun _ _ h => h, fun _ _ _ => rfl⟩

/-- A step that no place shows. -/
theorem silent {step : S → S} (h : ∀ s l, part (step s) l = part s l) (a : α) :
    Confined part k (fun s => (a, step s)) :=
  ⟨fun _ _ _ => rfl, fun s t heq => by rw [h, h, heq], fun s l _ => h s l⟩

/-- What runs `m` and goes on from its result is confined, if it goes on so from the results
that there are. -/
theorem seq {n : S → γ × S} (hm : Confined part k m) (g : α → S → γ × S)
    (hn : ∀ s, n s = g (m s).1 (m s).2) (hg : ∀ s, Confined part k (g (m s).1)) :
    Confined part k n where
  result s t h := by
    rw [hn, hn, hm.result s t h]
    exact (hg t).result _ _ (hm.own s t h)
  own s t h := by
    rw [hn, hn, hm.result s t h]
    exact (hg t).own _ _ (hm.own s t h)
  others s l hl := by
    rw [hn]
    exact ((hg s).others _ l hl).trans (hm.others s l hl)

/-- What goes one way from a success of `m` and another from a failure is confined, if both
ways are for the results that there are. -/
theorem branch {ε : Type} {m : S → Except ε α × S} {n : S → γ × S} (hm : Confined part k m)
    (ok : α → S → γ × S) (error : ε → S → γ × S)
    (hok : ∀ s a t, m s = (.ok a, t) → n s = ok a t ∧ Confined part k (ok a))
    (herror : ∀ s e t, m s = (.error e, t) → n s = error e t ∧ Confined part k (error e)) :
    Confined part k n := by
  have hway : ∀ s t, part s k = part t k → ∃ go : S → γ × S, Confined part k go ∧
      n s = go (m s).2 ∧ n t = go (m t).2 := by
    intro s t h
    have hresult := hm.result s t h
    cases hs : (m s).1 with
    | ok a =>
      obtain ⟨hns, hgo⟩ := hok s a (m s).2 (Prod.ext hs rfl)
      exact ⟨ok a, hgo, hns, (hok t a (m t).2 (Prod.ext (hresult.symm.trans hs) rfl)).1⟩
    | error e =>
      obtain ⟨hns, hgo⟩ := herror s e (m s).2 (Prod.ext hs rfl)
      exact ⟨error e, hgo, hns, (herror t e (m t).2 (Prod.ext (hresult.symm.trans hs) rfl)).1⟩
  refine ⟨fun s t h => ?_, fun s t h => ?_, fun s l hl => ?_⟩
  · obtain ⟨go, hgo, hs, ht⟩ := hway s t h
    rw [hs, ht]
    exact hgo.result _ _ (hm.own s t h)
  · obtain ⟨go, hgo, hs, ht⟩ := hway s t h
    rw [hs, ht]
    exact hgo.own _ _ (hm.own s t h)
  · obtain ⟨go, hgo, hs, -⟩ := hway s s rfl
    rw [hs]
    exact (hgo.others _ l hl).trans (hm.others s l hl)

theorem map (hm : Confined part k m) (f : α → γ) : Confined part k (fun s => (f (m s).1, (m s).2)) :=
  hm.seq (fun a s => (f a, s)) (fun _ => rfl) (fun _ => pure part k _)

/-- A confined computation behind a step that no place shows. -/
theorem after {step : S → S} (hm : Confined part k m) (h : ∀ s l, part (step s) l = part s l) :
    Confined part k (fun s => m (step s)) :=
  (silent h ()).seq (fun _ => m) (fun _ => rfl) (fun _ => hm)

end Confined

end Confined

variable {σ β : Type}

def Session.part (part : σ → Name → β) (s : Session σ) : Name → β := part s.provider

/-- Every call is confined to the zone that it is about. -/
def Provider.KeepsApart (p : Provider σ) (part : σ → Name → β) : Prop :=
  ∀ {α : Type} (c : Call α), Confined part (.ofString c.zone) (p.answer c)

theorem Operation.zone_call (o : Operation) : o.call.zone = o.zone := by
  unfold Operation.call
  cases o.action <;> rfl

namespace Session

variable {part : σ → Name → β} {p : Provider σ} {zone : Name}

theorem part_emit (s : Session σ) (e : Event) (l : Name) : (s.emit e).part part l = s.part part l :=
  rfl

theorem part_called (s : Session σ) (t : σ) (l : Name) : (s.called p t).part part l = part t l := by
  rw [Session.part, Reconciler.provider_called]

/-- A step of the provider is confined in a session as well. -/
theorem confined_called {α : Type} {m : σ → α × σ} (h : Confined part zone m) :
    Confined (Session.part part) zone
      (fun s => ((m s.provider).1, s.called p (m s.provider).2)) where
  result s t heq := h.result _ _ heq
  own s t heq := by
    rw [part_called, part_called]
    exact h.own _ _ heq
  others s l hl := by
    rw [part_called]
    exact h.others _ l hl

end Session

/-- A part of a run goes on confined, if it is so for the results that there are. -/
theorem Run.confined_bind {part : Session σ → Name → β} {zone : Name} {α γ : Type}
    {m : Run σ α} {k : α → Run σ γ} (hm : Confined part zone m)
    (hk : ∀ a, (∃ s t, m s = (.ok a, t)) → Confined part zone (k a)) :
    Confined part zone (m >>= k) := by
  refine hm.branch k (fun e t => (.error e, t)) (fun s a t hrun => ⟨?_, hk a ⟨s, t, hrun⟩⟩)
    (fun s e t hrun => ⟨?_, .pure part zone _⟩)
  · rw [Run.bind_apply, hrun]
  · rw [Run.bind_apply, hrun]

namespace Provider.KeepsApart

variable {part : σ → Name → β} {r : Reconciler σ} {zone : Name}

theorem ask (h : r.provider.KeepsApart part) {α : Type} (c : Call α) :
    Confined (Session.part part) (.ofString c.zone) (r.ask c) :=
  Session.confined_called (h c)

theorem relates (h : r.provider.KeepsApart part) (zone : Name) :
    r.Relates r (fun _ c => Name.ofString c.zone = zone)
      (fun _ m _ => Confined (Session.part part) zone m) where
  capabilities := rfl
  createMissingZones := rfl
  pure := fun _ => .pure _ zone _
  throw := fun _ => .pure _ zone _
  tell := fun e => .silent (fun s l => s.part_emit e l) _
  ask := fun c hc => hc ▸ h.ask c
  fetch := fun _ c hc => (hc ▸ h.ask c : Confined _ zone (r.ask c)).map _
  bind := fun hm hk => Run.confined_bind hm (fun a _ => hk a)

theorem plan (h : r.provider.KeepsApart part) (domain : Domain) :
    Confined (Session.part part) domain.zone (r.plan domain) :=
  (h.relates domain.zone).plan domain (fun _ c _ hc => by rw [hc, Name.ofString_text])

theorem ensureZone (h : r.provider.KeepsApart part) (zone : Name) :
    Confined (Session.part part) zone (r.ensureZone zone.text) :=
  (h.relates zone).ensureZone (fun _ c _ hc => by rw [hc, Name.ofString_text])
    (Name.ofString_text zone)

theorem applyWithRetries (h : r.provider.KeepsApart part) {c : Correction}
    (hc : Name.ofString c.operation.zone = zone) (delay retries : Nat) :
    Confined (Session.part part) zone
      (Reconciler.applyWithRetries r.provider delay c retries) := by
  have hattempt : Confined (Session.part part) zone (fun s =>
      ((c.apply r.provider s.provider).1,
        s.called r.provider (c.apply r.provider s.provider).2)) := by
    rw [← hc, ← c.operation.zone_call]
    exact Session.confined_called ((h c.operation.call).map _)
  induction retries with
  | zero =>
    refine hattempt.seq (fun result t => (⟨1, result⟩, t)) (fun s => ?_) (fun _ => .pure _ zone _)
    rcases happly : c.apply r.provider s.provider with ⟨_ | _, t⟩
    · exact Reconciler.applyWithRetries_last happly
    · exact Reconciler.applyWithRetries_ok happly
  | succ retries ih =>
    have hrest : Confined (Session.part part) zone (fun t =>
        Reconciler.applyWithRetries r.provider delay c retries (t.later delay)) :=
      ih.after (fun _ _ => rfl)
    refine hattempt.branch (fun _ t => (⟨1, .ok ()⟩, t))
      (fun _ t =>
        let run := Reconciler.applyWithRetries r.provider delay c retries (t.later delay)
        ({ run.1 with attempts := run.1.attempts + 1 }, run.2))
      (fun s u t hrun => ⟨?_, .pure _ zone _⟩)
      (fun s e t hrun => ⟨?_, hrest.map (fun o => { o with attempts := o.attempts + 1 })⟩)
    · obtain ⟨hresult, rfl⟩ := Prod.mk.inj hrun
      exact Reconciler.applyWithRetries_ok (Prod.ext hresult rfl)
    · obtain ⟨hresult, rfl⟩ := Prod.mk.inj hrun
      exact Reconciler.applyWithRetries_again (Prod.ext hresult rfl)

private def withReport {α : Type} (report : Report) (m : Application σ → α × Application σ) :
    Session σ → (α × Report) × Session σ := fun s =>
  (((m ⟨s, report⟩).1, (m ⟨s, report⟩).2.report), (m ⟨s, report⟩).2.session)

/-- To record an outcome is to tell an event and to note it in the report, whatever the
provider has. -/
private theorem exists_record (σ : Type) (report : Report) (i : Nat) (c : Correction)
    (o : Outcome) :
    ∃ (e : Event) (next : Report), ∀ s : Session σ,
      (⟨s, report⟩ : Application σ).record i c o = ⟨s.emit e, next⟩ := by
  unfold Application.record
  cases o.result with
  | ok u =>
    exact ⟨.correctionApplied report.zone i c.message o.attempts,
      { report with applied := report.applied + 1 }, fun s => rfl⟩
  | error e =>
    exact ⟨.correctionFailed report.zone i c.message e.message (o.attempts - 1),
      { report with failures := report.failures ++ [⟨i, c.message, e.message⟩] }, fun s => rfl⟩

theorem applySequentially (h : r.provider.KeepsApart part) {pass : List (Nat × Correction)}
    (hpass : ∀ e ∈ pass, Name.ofString e.2.operation.zone = zone) (report : Report) :
    Confined (Session.part part) zone (withReport report (r.applySequentially pass)) := by
  induction pass generalizing report with
  | nil => exact .pure (Session.part part) zone (false, report)
  | cons e rest ih =>
    obtain ⟨i, c⟩ := e
    rw [List.forall_mem_cons] at hpass
    refine (h.applyWithRetries hpass.1 r.config.wait r.config.maxRetries.toNat).seq
      (fun o => withReport report (fun a =>
        if r.stopsOn o then (true, a.record i c o)
        else r.applySequentially rest (a.record i c o))) (fun s => rfl) (fun s => ?_)
    generalize (Reconciler.applyWithRetries r.provider r.config.wait c
      r.config.maxRetries.toNat s).1 = o
    obtain ⟨e, next, hrecord⟩ := exists_record σ report i c o
    unfold withReport
    simp only [hrecord]
    cases r.stopsOn o with
    | true => exact .silent (fun s l => Session.part_emit s e l) (true, next)
    | false => exact (ih hpass.2 next).after (fun s l => Session.part_emit s e l)

theorem applyPass (h : r.provider.KeepsApart part) (hsingle : r.config.maxParallel = 1)
    {pass : List (Nat × Correction)}
    (hpass : ∀ e ∈ pass, Name.ofString e.2.operation.zone = zone) (report : Report) :
    Confined (Session.part part) zone (withReport report (r.applyPass pass)) := by
  have hsequential : r.applyPass pass = r.applySequentially pass := by
    funext a
    rw [Reconciler.applyPass, hsingle]
    rfl
  rw [hsequential]
  exact h.applySequentially hpass report

theorem applyPasses (h : r.provider.KeepsApart part) (hsingle : r.config.maxParallel = 1)
    {passes : List (List (Nat × Correction))}
    (hpasses : ∀ e ∈ passes.flatten, Name.ofString e.2.operation.zone = zone) (report : Report) :
    Confined (Session.part part) zone
      (withReport report (fun a => ((), r.applyPasses passes a))) := by
  induction passes generalizing report with
  | nil => exact .pure (Session.part part) zone ((), report)
  | cons pass rest ih =>
    rw [List.flatten_cons, List.forall_mem_append] at hpasses
    refine (h.applyPass hsingle hpasses.1 report).seq
      (fun through => if through.1 then
          fun t =>
            let tried := through.2.applied + through.2.failures.length
            (((), { through.2 with aborted := tried < through.2.planned }), t)
        else withReport through.2 (fun a => ((), r.applyPasses rest a)))
      (fun s => ?_) (fun s => ?_)
    · rcases hrun : r.applyPass pass ⟨s, report⟩ with ⟨_ | _, a⟩ <;>
        simp [withReport, Reconciler.applyPasses, hrun]
    · rcases (withReport report (r.applyPass pass) s).1 with ⟨_ | _, next⟩
      · exact ih hpasses.2 next
      · exact .pure _ zone _

theorem apply (h : r.provider.KeepsApart part) (hsingle : r.config.maxParallel = 1)
    {cs : List Correction} (hcs : ∀ c ∈ cs, Name.ofString c.operation.zone = zone)
    (told : String) : Confined (Session.part part) zone (r.apply told cs) := by
  have hpasses : ∀ e ∈ (Reconciler.passes cs).flatten,
      Name.ofString e.2.operation.zone = zone := by
    intro e he
    rw [Reconciler.flatten_passes] at he
    exact hcs _ (mem_of_mem_indexed he)
  refine (h.applyPasses hsingle hpasses { zone := told, planned := cs.length }).seq
    (fun through s => (through.2, s.emit
      (.finished told through.2.applied through.2.failures.length through.2.aborted)))
    (fun s => rfl) (fun s => .silent (fun s l => Session.part_emit s _ l) _)

/-- Every operation that is planned for a domain is about its zone. -/
theorem zone_of_plan {domain : Domain} {cs : List Correction} {s t : Session σ}
    (hplan : r.plan domain s = (.ok cs, t)) :
    ∀ c ∈ cs, Name.ofString c.operation.zone = domain.zone := by
  intro c hc
  obtain ⟨_, _, _, _, _, hcompute⟩ := Reconciler.exists_of_plan_eq_ok hplan
  rw [(Correction.ExactPlan.of_compute hcompute).separate.zone c hc, Name.ofString_text]

/-- A reconciliation with one correction under way at a time is confined to the zone of its
domain. -/
theorem reconcile (h : r.provider.KeepsApart part) (hsingle : r.config.maxParallel = 1)
    (domain : Domain) : Confined (Session.part part) domain.zone (r.reconcile domain) := by
  have hparts := h.relates domain.zone
  refine Run.confined_bind (hparts.tell _) (fun _ _ => ?_)
  refine Run.confined_bind (hparts.lift _) (fun _ _ => ?_)
  refine Run.confined_bind (h.ensureZone _) (fun _ _ => ?_)
  refine Run.confined_bind (h.plan domain) (fun cs hcs => ?_)
  obtain ⟨s, t, hplan⟩ := hcs
  exact (h.apply hsingle (zone_of_plan hplan) domain.zone.text).map Except.ok

end Provider.KeepsApart

namespace Store

def zoneAt (s : Store) (name : Name) : Option Contents := s.zones.get? name

theorem ext_zoneAt {s t : Store} (h : ∀ name, s.zoneAt name = t.zoneAt name) : s = t := by
  cases s
  cases t
  exact congrArg Store.mk (SortedMap.ext_get? h)

theorem Step.zoneAt_of_ne {s t : Store} {zone : String} (h : s.Step zone t) {l : Name}
    (hl : l ≠ .ofString zone) : t.zoneAt l = s.zoneAt l := by
  cases h with
  | refl => rfl
  | zone hmissing => exact SortedMap.get?_insert_of_ne _ _ hl
  | set hm hpermitted => exact SortedMap.get?_insert_of_ne _ _ hl

private theorem hosted_congr {s t : Store} {zone : String}
    (h : s.contents? zone = t.contents? zone) : s.hosted zone = t.hosted zone := by
  rw [hosted, hosted, h]

/-- What an operation comes to depends on nothing but its zone. -/
private theorem perform_congr {s t : Store} {o : Operation}
    (h : s.contents? o.zone = t.contents? o.zone) :
    (s.writing (s.perform o)).1 = (t.writing (t.perform o)).1 ∧
      (s.writing (s.perform o)).2.contents? o.zone =
        (t.writing (t.perform o)).2.contents? o.zone := by
  cases hm : t.contents? o.zone with
  | none =>
    rw [hm] at h
    rw [perform_missing h, perform_missing hm]
    exact ⟨rfl, h.trans hm.symm⟩
  | some m =>
    rw [hm] at h
    rw [perform_of_contents h, perform_of_contents hm]
    cases o.refusal? m with
    | some e => exact ⟨rfl, h.trans hm.symm⟩
    | none => exact ⟨rfl, by simp only [writing, contents?_setContents, if_pos]⟩

/-- The answer to a call depends on nothing but the zone of the call. -/
theorem answer_congr (nameservers : List String) {s t : Store} {α : Type} (c : Call α)
    (h : s.contents? c.zone = t.contents? c.zone) :
    (answer nameservers c s).1 = (answer nameservers c t).1 ∧
      (answer nameservers c s).2.contents? c.zone =
        (answer nameservers c t).2.contents? c.zone := by
  have hoperation : ∀ o : Operation, s.contents? o.zone = t.contents? o.zone →
      (answer nameservers o.call s).1 = (answer nameservers o.call t).1 ∧
        (answer nameservers o.call s).2.contents? o.zone =
          (answer nameservers o.call t).2.contents? o.zone := by
    intro o ho
    rw [answer_call, answer_call]
    exact perform_congr ho
  cases c with
  | zoneExists zone =>
    have hzone : s.contents? zone = t.contents? zone := h
    exact ⟨by simp only [answer, reading, hzone], h⟩
  | list zone =>
    have hzone : s.hosted zone = t.hosted zone := hosted_congr h
    exact ⟨by simp only [answer, reading, list, hzone], h⟩
  | get zone name type =>
    have hzone : s.hosted zone = t.hosted zone := hosted_congr h
    exact ⟨by simp only [answer, reading, get, hzone], h⟩
  | nameservers zone => exact ⟨rfl, h⟩
  | createZone zone =>
    have hzone : s.contents? zone = t.contents? zone := h
    simp only [answer, createZone, Call.zone, hzone]
    cases t.contents? zone with
    | some m => exact ⟨rfl, hzone⟩
    | none => exact ⟨rfl, by simp only [writing, contents?_setContents, if_pos]⟩
  | create zone name type set => exact hoperation ⟨zone, name, type, .create set⟩ h
  | update zone name type set => exact hoperation ⟨zone, name, type, .update set⟩ h
  | delete zone name type => exact hoperation ⟨zone, name, type, .delete⟩ h

/-- A store keeps its zones apart, whatever types it is said to host. -/
theorem keepsApart (nameservers : List String) (capabilities : Capabilities) :
    { provider nameservers with capabilities }.KeepsApart zoneAt := fun c =>
  { result := fun _ _ h => (answer_congr nameservers c h).1
    own := fun _ _ h => (answer_congr nameservers c h).2
    others := fun s _ hl => (s.step_answer nameservers c).zoneAt_of_ne hl }

end Store

end DnsReconcile
