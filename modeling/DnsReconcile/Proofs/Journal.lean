import Mathlib.Data.List.Basic
import DnsReconcile.Engine

/-!
What is recorded while corrections are applied.

Each correction that was tried leaves one entry with its outcome. The entries
determine the events and the report of an application, whether they were recorded
one by one or once a whole pass was through (`Tries`).
-/

namespace DnsReconcile

variable {σ : Type}

/-- A correction that was tried, with its place in the list and its outcome. -/
structure Tried where
  index : Nat
  correction : Correction
  outcome : Outcome

namespace Tried

def entry (t : Tried) : Nat × Correction := (t.index, t.correction)

def event (zone : String) (t : Tried) : Event :=
  match t.outcome.result with
  | .ok () => .correctionApplied zone t.index t.correction.message t.outcome.attempts
  | .error e =>
    .correctionFailed zone t.index t.correction.message e.message (t.outcome.attempts - 1)

def failure? (t : Tried) : Option CorrectionFailure :=
  match t.outcome.result with
  | .ok () => none
  | .error e => some ⟨t.index, t.correction.message, e.message⟩

def isApplied (t : Tried) : Bool := !t.outcome.isFailure

theorem isApplied_iff {t : Tried} : t.isApplied = true ↔ t.outcome.result = .ok () := by
  unfold isApplied Outcome.isFailure
  cases t.outcome.result <;> simp

theorem failure?_eq_none_iff {t : Tried} : t.failure? = none ↔ t.outcome.result = .ok () := by
  unfold failure?
  cases t.outcome.result <;> simp

end Tried

namespace Application

variable {a b c : Application σ}

/-- `b` is `a` with some entries recorded. The provider may be in any state. -/
structure Extends (a b : Application σ) (journal : List Tried) : Prop where
  events : b.session.events = a.session.events ++ journal.map (Tried.event a.report.zone)
  zone : b.report.zone = a.report.zone
  planned : b.report.planned = a.report.planned
  applied : b.report.applied = a.report.applied + (journal.filter Tried.isApplied).length
  failures : b.report.failures = a.report.failures ++ journal.filterMap Tried.failure?
  aborted : b.report.aborted = a.report.aborted

theorem Extends.refl (a : Application σ) : a.Extends a [] := by
  constructor <;> simp

theorem Extends.trans {xs ys : List Tried} (h : a.Extends b xs) (k : b.Extends c ys) :
    a.Extends c (xs ++ ys) where
  events := by rw [k.events, h.events, h.zone, List.map_append, List.append_assoc]
  zone := k.zone.trans h.zone
  planned := k.planned.trans h.planned
  applied := by
    rw [k.applied, h.applied, List.filter_append, List.length_append, Nat.add_assoc]
  failures := by rw [k.failures, h.failures, List.filterMap_append, List.append_assoc]
  aborted := k.aborted.trans h.aborted

/-- One entry is recorded in a session that told nothing else meanwhile. -/
theorem extends_record (a : Application σ) {session : Session σ}
    (hsession : session.events = a.session.events) (t : Tried) :
    a.Extends ({ a with session }.record t.index t.correction t.outcome) [t] := by
  obtain ⟨i, c, attempts, result⟩ := t
  cases result <;> constructor <;>
    simp [record, Session.events_emit, hsession, Tried.event, Tried.failure?, Tried.isApplied,
      Outcome.isFailure]

theorem extends_session (a : Application σ) (session : Session σ)
    (hsession : session.events = a.session.events) : a.Extends { a with session } [] := by
  constructor <;> simp [hsession]

theorem provider_record (a : Application σ) (t : Tried) :
    (a.record t.index t.correction t.outcome).session.provider = a.session.provider := by
  obtain ⟨i, c, attempts, result⟩ := t
  cases result <;> rfl

theorem session_record (a : Application σ) (session : Session σ) (i : Nat) (c : Correction)
    (o : Outcome) :
    ({ a with session }.record i c o).session =
        session.emit (Tried.event a.report.zone ⟨i, c, o⟩) ∧
      ({ a with session }.record i c o).report.zone = a.report.zone := by
  unfold record Tried.event
  cases o.result <;> exact ⟨rfl, rfl⟩

end Application

namespace Reconciler

variable {r : Reconciler σ} {a b c : Application σ}

theorem map_snd_indexed (start : Nat) (cs : List Correction) :
    (indexed start cs).map (·.2) = cs := by
  induction cs generalizing start with
  | nil => rfl
  | cons c rest ih => rw [indexed, List.map_cons, ih]

theorem length_indexed (start : Nat) (cs : List Correction) :
    (indexed start cs).length = cs.length := by
  simpa using congrArg List.length (map_snd_indexed start cs)

theorem map_fst_indexed (start : Nat) (cs : List Correction) :
    (indexed start cs).map (·.1) = List.range' start cs.length := by
  induction cs generalizing start with
  | nil => rfl
  | cons c rest ih => rw [indexed, List.map_cons, ih, List.length_cons, List.range'_succ]

theorem nodup_indexed (cs : List Correction) : ((indexed 0 cs).map (·.1)).Nodup := by
  rw [map_fst_indexed]
  exact List.nodup_range'

theorem getElem?_indexed (start : Nat) (cs : List Correction) (k : Nat) :
    (indexed start cs)[k]? = (cs[k]?).map (fun c => (start + k, c)) := by
  induction cs generalizing start k with
  | nil => rfl
  | cons c cs ih =>
    cases k with
    | zero => rfl
    | succ k =>
      rw [indexed, List.getElem?_cons_succ, List.getElem?_cons_succ, ih, Nat.add_right_comm,
        Nat.add_assoc]

/-- From `a` to `b` the corrections of a list are tried in their order: all of
them, or some until a failure stopped the run. -/
structure Tries (r : Reconciler σ) (pass : List (Nat × Correction)) (a b : Application σ)
    (stopped : Bool) (journal : List Tried) : Prop where
  recorded : a.Extends b journal
  sublist : (journal.map Tried.entry).Sublist pass
  stops : stopped = journal.any (fun t => r.stopsOn t.outcome)
  complete : stopped = false → journal.map Tried.entry = pass

theorem Tries.nil (r : Reconciler σ) (a : Application σ) : r.Tries [] a a false [] :=
  ⟨.refl a, .refl _, rfl, fun _ => rfl⟩

theorem Tries.append {first second : List (Nat × Correction)} {stopped : Bool}
    {xs ys : List Tried} (h : r.Tries first a b false xs) (k : r.Tries second b c stopped ys) :
    r.Tries (first ++ second) a c stopped (xs ++ ys) where
  recorded := h.recorded.trans k.recorded
  sublist := by
    rw [List.map_append]
    exact h.sublist.append k.sublist
  stops := by rw [List.any_append, ← h.stops, Bool.false_or, k.stops]
  complete := fun hstopped => by rw [List.map_append, h.complete rfl, k.complete hstopped]

/-- Nothing behind the failure that stopped a run is tried. -/
theorem Tries.stop {first : List (Nat × Correction)} {xs : List Tried}
    (h : r.Tries first a b true xs) (second : List (Nat × Correction)) :
    r.Tries (first ++ second) a b true xs where
  recorded := h.recorded
  sublist := h.sublist.trans (List.sublist_append_left first second)
  stops := h.stops
  complete := fun hstopped => absurd hstopped (by decide)

def triedInOrder (r : Reconciler σ) : List (Nat × Correction) → Application σ → List Tried
  | [], _ => []
  | (i, c) :: rest, a =>
    let (o, session) := applyWithRetries r.provider r.config.wait c
      r.config.maxRetries.toNat a.session
    ⟨i, c, o⟩ :: if r.stopsOn o then []
      else r.triedInOrder rest ({ a with session }.record i c o)

def joinedJournal (outcomes : SortedMap Nat Outcome) (pass : List (Nat × Correction)) :
    List Tried :=
  pass.filterMap (fun e => (outcomes.get? e.1).map (fun o => ⟨e.1, e.2, o⟩))

theorem mem_joinedJournal {outcomes : SortedMap Nat Outcome} {pass : List (Nat × Correction)}
    {t : Tried} :
    t ∈ joinedJournal outcomes pass ↔
      t.entry ∈ pass ∧ outcomes.get? t.index = some t.outcome := by
  obtain ⟨i, c, o⟩ := t
  simp only [joinedJournal, List.mem_filterMap, Option.map_eq_some_iff, Tried.mk.injEq,
    Tried.entry]
  constructor
  · rintro ⟨e, he, o', ho, rfl, rfl, rfl⟩
    exact ⟨he, ho⟩
  · rintro ⟨he, ho⟩
    exact ⟨(i, c), he, o, ho, rfl, rfl, rfl⟩

theorem map_entry_joinedJournal (outcomes : SortedMap Nat Outcome)
    (pass : List (Nat × Correction)) :
    (joinedJournal outcomes pass).map Tried.entry =
      pass.filter (fun e => (outcomes.get? e.1).isSome) := by
  induction pass with
  | nil => rfl
  | cons e rest ih =>
    rw [joinedJournal, List.filterMap_cons, List.filter_cons]
    cases hget : outcomes.get? e.1 with
    | none => exact ih
    | some o =>
      simp only [Option.map_some, Option.isSome_some, if_true, List.map_cons]
      exact congrArg (e :: ·) ih

theorem recordOutcomes_extends (outcomes : SortedMap Nat Outcome)
    (pass : List (Nat × Correction)) (a : Application σ) :
    a.Extends (recordOutcomes outcomes pass a) (joinedJournal outcomes pass) ∧
      (recordOutcomes outcomes pass a).session.provider = a.session.provider := by
  induction pass generalizing a with
  | nil => exact ⟨.refl a, rfl⟩
  | cons e rest ih =>
    obtain ⟨i, c⟩ := e
    rw [recordOutcomes, joinedJournal, List.filterMap_cons]
    cases hget : outcomes.get? i with
    | none => exact ih a
    | some o =>
      obtain ⟨hextends, hprovider⟩ := ih (a.record i c o)
      have hone : a.Extends (a.record i c o) [⟨i, c, o⟩] := a.extends_record rfl ⟨i, c, o⟩
      exact ⟨hone.trans hextends, hprovider.trans (a.provider_record ⟨i, c, o⟩)⟩

def drained (r : Reconciler σ) (pass : List (Nat × Correction)) (a : Application σ) : Pool σ :=
  (Pool.new r.config pass a.session.provider a.session.clock).drain r.provider r.scheduler

/-- What a pass with several corrections under way takes over from its pool. -/
theorem applyConcurrently_spec (r : Reconciler σ) (pass : List (Nat × Correction))
    (a : Application σ) :
    (r.applyConcurrently pass a).1 = (r.drained pass a).outcomes.values.any r.stopsOn ∧
      a.Extends (r.applyConcurrently pass a).2
        (joinedJournal (r.drained pass a).outcomes pass) ∧
      (r.applyConcurrently pass a).2.session.provider = (r.drained pass a).provider := by
  have hrun : r.applyConcurrently pass a =
      ((r.drained pass a).outcomes.values.any r.stopsOn,
        recordOutcomes (r.drained pass a).outcomes pass { a with session := { a.session with
          provider := (r.drained pass a).provider, clock := (r.drained pass a).clock }.pause }) :=
    rfl
  obtain ⟨hextends, hprovider⟩ := recordOutcomes_extends (r.drained pass a).outcomes pass
    { a with session := { a.session with
        provider := (r.drained pass a).provider, clock := (r.drained pass a).clock }.pause }
  have hsession := a.extends_session { a.session with
    provider := (r.drained pass a).provider, clock := (r.drained pass a).clock }.pause
    (Session.events_pause _)
  rw [hrun]
  exact ⟨rfl, hsession.trans hextends, hprovider⟩

end Reconciler

end DnsReconcile
