import DnsReconcile.Proofs.Accounting
import DnsReconcile.Proofs.Scheduling

/-!
What the events of an application tell, and what a reader of them gets.

A correction makes one attempt and at most as many more as retries are allowed, whether it
is tried on its own (`attempts_applyWithRetries`) or with others (`Pool.Bounded.step`). The
events follow the journal, so they tell each outcome that was joined once, in the order of
the list (`Announced`). A channel may lose events, but it changes neither their order nor
their number otherwise, however it is drained (`Channel.Drains.sublist`).
-/

namespace DnsReconcile

variable {σ : Type} {p : Provider σ}

/-- An outcome of at least one attempt, and of one more than there are retries at most. -/
structure Outcome.Within (o : Outcome) (retries : Nat) : Prop where
  pos : 1 ≤ o.attempts
  le : o.attempts ≤ retries + 1

/-- The death of a task counts as one attempt. -/
theorem Outcome.within_ofDeath (c : Correction) (retries : Nat) :
    (Outcome.ofDeath c).Within retries :=
  ⟨Nat.le_refl 1, Nat.le_add_left 1 retries⟩

namespace Pool

/-- No task has made more attempts than it may. -/
structure Bounded (pool : Pool σ) : Prop where
  active : ∀ t ∈ pool.active, t.attempts ≤ pool.config.maxRetries.toNat
  finished : ∀ f ∈ pool.finished, f.outcome.Within pool.config.maxRetries.toNat

variable {pool next : Pool σ} {pass : List (Nat × Correction)}

theorem Ends.within {config : EngineConfig} {t : Task} {s s' : σ} {o : Outcome}
    (h : Ends p config t s o s') (ht : t.attempts ≤ config.maxRetries.toNat) :
    o.Within config.maxRetries.toNat := by
  cases h with
  | death hcrash => exact Outcome.within_ofDeath _ _
  | success halive happly => exact ⟨Nat.le_add_left 1 _, Nat.succ_le_succ ht⟩
  | failure halive happly hlast => exact ⟨Nat.le_add_left 1 _, Nat.succ_le_succ ht⟩

/-- A step keeps the bounds, and shows no outcome that is out of them. -/
theorem Bounded.step (h : pool.Bounded) {m : Move} (hstep : Step p pool m next) :
    next.Bounded ∧ ∀ e ∈ joinedIn (pool.moment? next).toList,
      e.2.Within pool.config.maxRetries.toNat := by
  have hactive := h.active
  have hfinished := h.finished
  cases hstep with
  | @start i c rest hwaiting hcan =>
    refine ⟨⟨List.forall_mem_append.2 ⟨hactive, ?_⟩, hfinished⟩, ?_⟩
    · exact List.forall_mem_singleton.2 (Nat.zero_le _)
    · simp [moment?, hwaiting, joinedIn, Moment.joined?]
  | @retry before after t e s hsplit halive happly hleft =>
    rw [hsplit] at hactive
    obtain ⟨hbefore, hrest⟩ := List.forall_mem_append.1 hactive
    obtain ⟨-, hafter⟩ := List.forall_mem_cons.1 hrest
    refine ⟨⟨?_, hfinished⟩, by simp [moment?, joinedIn]⟩
    exact List.forall_mem_append.2 ⟨hbefore, List.forall_mem_cons.2 ⟨hleft, hafter⟩⟩
  | @finish before after t o s hsplit hends =>
    rw [hsplit] at hactive
    have ho := hends.within (hactive t (by simp))
    refine ⟨⟨fun u hu => hactive u (mem_append_cons_of_mem hu), ?_⟩, ?_⟩
    · exact List.forall_mem_append.2 ⟨hfinished, List.forall_mem_singleton.2 ho⟩
    · simp [moment?, joinedIn, Moment.joined?]
  | @join before after f hsplit hcan =>
    rw [hsplit] at hfinished
    refine ⟨⟨hactive, fun g hg => hfinished g (mem_append_cons_of_mem hg)⟩, ?_⟩
    have hf := hfinished f (by simp)
    simpa [moment?, joinedIn, Moment.joined?] using hf

/-- What a drained pool has joined is within the bounds. -/
theorem within_drainTrace (hpass : (pass.map (·.1)).Nodup) (config : EngineConfig) (s : σ)
    (clock : Nat) (scheduler : Scheduler σ) :
    ∀ e ∈ joinedIn ((new config pass s clock).drainTrace p scheduler),
      e.2.Within config.maxRetries.toNat := by
  refine (trace_induction (t := []) hpass
    (P := fun t pool => pool.config = config ∧ pool.Bounded ∧
      ∀ e ∈ joinedIn t, e.2.Within config.maxRetries.toNat) ?_ scheduler _
    (worksOn_new config pass s clock) ⟨rfl, ⟨by simp [new], by simp [new]⟩, by simp [joinedIn]⟩).2.2
  rintro t pool next m - ⟨rfl, hbounded, ht⟩ hstep
  obtain ⟨hnext, hshown⟩ := hbounded.step hstep
  refine ⟨hstep.config_eq, hnext, ?_⟩
  rw [joinedIn_append]
  exact List.forall_mem_append.2 ⟨ht, hshown⟩

end Pool

namespace Reconciler

variable {r : Reconciler σ}

theorem attempts_applyWithRetries (p : Provider σ) (delay : Nat) (c : Correction)
    (retries : Nat) (s : Session σ) :
    (applyWithRetries p delay c retries s).1.Within retries := by
  induction retries generalizing s with
  | zero =>
    cases happly : c.apply p s.provider with
    | mk result t =>
      cases result with
      | ok u =>
        rw [applyWithRetries_ok happly]
        exact ⟨Nat.le_refl 1, Nat.le_refl 1⟩
      | error e =>
        rw [applyWithRetries_last happly]
        exact ⟨Nat.le_refl 1, Nat.le_refl 1⟩
  | succ retries ih =>
    cases happly : c.apply p s.provider with
    | mk result t =>
      cases result with
      | ok u =>
        rw [applyWithRetries_ok happly]
        exact ⟨Nat.le_refl 1, Nat.le_add_left 1 _⟩
      | error e =>
        rw [applyWithRetries_again happly]
        exact ⟨Nat.le_add_left 1 _, Nat.succ_le_succ (ih _).le⟩

theorem within_triedInOrder (r : Reconciler σ) (pass : List (Nat × Correction))
    (a : Application σ) :
    ∀ t ∈ r.triedInOrder pass a, t.outcome.Within r.config.maxRetries.toNat := by
  induction pass generalizing a with
  | nil => simp [triedInOrder]
  | cons e rest ih =>
    obtain ⟨i, c⟩ := e
    rw [triedInOrder]
    refine List.forall_mem_cons.2 ⟨attempts_applyWithRetries .., ?_⟩
    split
    · exact List.forall_mem_nil _
    · exact ih _

theorem joinedIn_moments (ts : List Tried) :
    joinedIn (ts.flatMap Tried.moments) = ts.map Tried.ending := by
  induction ts with
  | nil => rfl
  | cons t ts ih =>
    rw [List.flatMap_cons, joinedIn_append, ih]
    rfl

theorem within_passesTrace {passes : List (List (Nat × Correction))}
    (hpasses : (passes.flatten.map (·.1)).Nodup) (a : Application σ) :
    ∀ e ∈ joinedIn (r.passesTrace passes a), e.2.Within r.config.maxRetries.toNat := by
  induction passes generalizing a with
  | nil => simp [passesTrace, joinedIn]
  | cons pass rest ih =>
    rw [List.flatten_cons, List.map_append, List.nodup_append] at hpasses
    rw [passesTrace, joinedIn_append]
    refine List.forall_mem_append.2 ⟨?_, ?_⟩
    · unfold passTrace
      split
      · exact Pool.within_drainTrace hpasses.1 _ _ _ _
      · rw [joinedIn_moments]
        exact List.forall_mem_map.2 (r.within_triedInOrder pass a)
    · split
      · simp [joinedIn]
      · exact ih hpasses.2.1 _

theorem within_trace (r : Reconciler σ) (zone : String) (cs : List Correction) (s : Session σ) :
    ∀ e ∈ joinedIn (r.trace zone cs s), e.2.Within r.config.maxRetries.toNat :=
  within_passesTrace (flatten_passes cs ▸ nodup_indexed cs) _

end Reconciler

def Event.failure? : Event → Option CorrectionFailure
  | .correctionFailed _ index message error _ => some ⟨index, message, error⟩
  | _ => none

def Event.isApplied : Event → Bool
  | .correctionApplied .. => true
  | _ => false

/-- The event tells the outcome of the correction at a place, with its message and its
attempts. -/
inductive Announces (config : EngineConfig) (zone : String) (cs : List Correction) :
    Nat × Outcome → Event → Prop
  | applied {i attempts : Nat} {c : Correction} (hplace : cs[i]? = some c)
      (hattempts : 1 ≤ attempts ∧ attempts ≤ config.maxRetries.toNat + 1) :
    Announces config zone cs (i, ⟨attempts, .ok ()⟩)
      (.correctionApplied zone i c.message attempts)
  | failed {i attempts : Nat} {c : Correction} {e : Error} (hplace : cs[i]? = some c)
      (hattempts : 1 ≤ attempts ∧ attempts ≤ config.maxRetries.toNat + 1) :
    Announces config zone cs (i, ⟨attempts, .error e⟩)
      (.correctionFailed zone i c.message e.message (attempts - 1))

/-- The events of an application: each outcome is told once, in the order of the list, and
the end is told last, with what the report counts. -/
structure Announced (config : EngineConfig) (zone : String) (cs : List Correction)
    (outcomes : List (Nat × Outcome)) (report : Report) (told : List Event) : Prop where
  corrections : ∃ ended announced, ended.Perm outcomes ∧
    (ended.map (·.1)).Pairwise (· < ·) ∧
    List.Forall₂ (Announces config zone cs) ended announced ∧
    told = announced ++
      [.finished zone report.applied report.failures.length report.aborted]
  failures : told.filterMap Event.failure? = report.failures
  applied : (told.filter Event.isApplied).length = report.applied

theorem Tried.announces {config : EngineConfig} {cs : List Correction} {t : Tried}
    (hplace : cs[t.index]? = some t.correction)
    (hattempts : t.outcome.Within config.maxRetries.toNat) (zone : String) :
    Announces config zone cs t.ending (t.event zone) := by
  obtain ⟨i, c, attempts, result⟩ := t
  cases result with
  | ok u => exact .applied hplace ⟨hattempts.pos, hattempts.le⟩
  | error e => exact .failed hplace ⟨hattempts.pos, hattempts.le⟩

theorem Tried.failure?_event (zone : String) :
    Event.failure? ∘ Tried.event zone = Tried.failure? := by
  funext ⟨i, c, attempts, result⟩
  cases result <;> rfl

theorem Tried.isApplied_event (zone : String) :
    Event.isApplied ∘ Tried.event zone = Tried.isApplied := by
  funext ⟨i, c, attempts, result⟩
  cases result <;> rfl

namespace Channel

/-- While events are sent through a channel, its reader takes some, and a channel is left.
The reader takes the oldest event that is held, at any time. -/
inductive Drains : Channel → List Event → List Event → Channel → Prop
  | nothing (c : Channel) : Drains c [] [] c
  | send {c left : Channel} {e : Event} {es got : List Event}
      (h : Drains (c.send e) es got left) : Drains c (e :: es) got left
  | take {c left : Channel} {e : Event} {rest es got : List Event} (hheld : c.held = e :: rest)
      (h : Drains { c with held := rest } es got left) : Drains c es (e :: got) left

variable {c left : Channel} {es got : List Event}

/-- Events can be lost on their way, and nothing else happens to them. -/
theorem Drains.sublist (h : c.Drains es got left) :
    (got ++ left.held).Sublist (c.held ++ es) := by
  induction h with
  | nothing c => simp
  | @send c left e es got h ih =>
    refine ih.trans ?_
    unfold Channel.send
    split
    · simp
    · exact (List.sublist_cons_self e es).append_left c.held
  | @take c left e rest es got hheld h ih =>
    rw [hheld]
    exact ih.cons_cons e

/-- A channel that is not drained holds what it had room for. -/
theorem held_sendAll (c : Channel) (es : List Event) :
    (c.sendAll es).held = c.held ++ es.take (c.capacity - c.held.length) := by
  induction es generalizing c with
  | nil => simp [sendAll]
  | cons e es ih =>
    rw [sendAll, List.foldl_cons, ← sendAll, ih]
    unfold Channel.send
    split
    · rename_i hroom
      obtain ⟨n, hn⟩ : ∃ n, c.capacity - c.held.length = n + 1 :=
        ⟨c.capacity - c.held.length - 1, by omega⟩
      have hless : c.capacity - (c.held ++ [e]).length = n := by
        rw [List.length_append, List.length_singleton]
        omega
      simp only [hless, hn, List.take_succ_cons, List.append_assoc, List.singleton_append]
    · rename_i hfull
      have hnone : c.capacity - c.held.length = 0 := by omega
      rw [hnone, List.take_zero, List.take_zero]

theorem Drains.eq_sendAll (h : c.Drains es [] left) : left = c.sendAll es := by
  generalize hgot : ([] : List Event) = got at h
  induction h with
  | nothing c => rfl
  | send h ih => exact ih hgot
  | take hheld h ih => cases hgot

/-- A reader can take all that is held. -/
theorem Drains.takeAll (h : c.drained.Drains es got left) : c.Drains es (c.held ++ got) left := by
  obtain ⟨capacity, held⟩ := c
  induction held with
  | nil => exact h
  | cons e rest ih => exact .take rfl (ih h)

/-- A reader that has its turns while the run waits takes what it gets from the channel, and
at the end what is left there. -/
theorem exists_drains_deliver (c : Channel) (notices : List Notice) :
    ∃ got left, c.Drains (notices.filterMap Notice.event?) got left ∧
      c.deliver notices = got ++ left.held := by
  induction notices generalizing c with
  | nil => exact ⟨[], c, .nothing c, rfl⟩
  | cons n rest ih =>
    cases n with
    | event e =>
      obtain ⟨got, left, hdrains, hdeliver⟩ := ih (c.send e)
      exact ⟨got, left, .send hdrains, hdeliver⟩
    | pause =>
      obtain ⟨got, left, hdrains, hdeliver⟩ := ih c.drained
      refine ⟨c.held ++ got, left, hdrains.takeAll, ?_⟩
      rw [deliver, hdeliver, List.append_assoc]

end Channel

open Reconciler in
/-- The events of an application agree with its report, whatever the provider, the settings
and the interleaving, and a reader gets some of them in their order, whatever the capacity
of the channel and however it is drained. -/
theorem apply_announced (r : Reconciler σ) (hconfig : r.config.validate = .ok ())
    (zone : String) (cs : List Correction) (s : Session σ) :
    ∃ told, (r.apply zone cs s).2.events = s.events ++ told ∧
      Announced r.config zone cs (joinedIn (r.trace zone cs s)) (r.apply zone cs s).1 told ∧
      (∀ (c : Channel) got left, c.Drains told got left →
        (got ++ left.held).Sublist (c.held ++ told)) ∧
      (∀ capacity left, (Channel.new capacity).Drains told [] left →
        left.held = told.take capacity) ∧
      ∀ capacity, ((Channel.new capacity).deliver (r.apply zone cs s).2.notices).Sublist
        (s.events ++ told) := by
  obtain ⟨stopped, journal, told, hran, hevents, hthrough⟩ :=
    r.trace_through (maxParallel_pos hconfig) zone cs s
  have hending := ending_perm_joinedIn hthrough hran.ascending_index
  have hannounces : ∀ t ∈ journal, Announces r.config zone cs t.ending (t.event zone) := by
    intro t ht
    have hplace := getElem?_of_mem_indexed (hran.sublist.subset (List.mem_map_of_mem ht))
    exact t.announces hplace (r.within_trace zone cs s _
      (hending.subset (List.mem_map_of_mem ht))) zone
  refine ⟨told, hevents, ⟨⟨journal.map Tried.ending, journal.map (Tried.event zone), hending, ?_,
    ?_, hran.told⟩, ?_, ?_⟩, fun c got left => Channel.Drains.sublist, ?_, ?_⟩
  · rw [List.map_map]
    exact hran.ascending_index
  · rw [List.forall₂_map_left_iff, List.forall₂_map_right_iff, List.forall₂_same]
    exact hannounces
  · rw [hran.told, List.filterMap_append, List.filterMap_map, Tried.failure?_event,
      hran.failures]
    exact List.append_nil _
  · rw [hran.told, List.filter_append, List.filter_map, Tried.isApplied_event, hran.applied,
      List.length_append, List.length_map]
    rfl
  · intro capacity left h
    rw [h.eq_sendAll, Channel.held_sendAll]
    simp [Channel.new]
  · intro capacity
    obtain ⟨got, left, hdrains, hdeliver⟩ :=
      (Channel.new capacity).exists_drains_deliver (r.apply zone cs s).2.notices
    rw [hdeliver, ← hevents]
    exact hdrains.sublist

private def removal (name : String) : Correction :=
  ⟨s!"delete {name}", ⟨"example.com.", name, .a, .delete⟩⟩

private def removals : List Correction :=
  [removal "a.example.com.", removal "b.example.com.", removal "c.example.com."]

/-- The first removal fails once, the task of the second dies, and the third fails. -/
private def unsteady : Injected Store :=
  (((Injected.start ((Store.empty.seed "example.com" "a.example.com" .a ⟨300, []⟩).seed
    "example.com" "b.example.com" .a ⟨300, []⟩)).plan "delete a.example.com. A" 1
      (.error (.provider "memory" "busy"))).plan "delete b.example.com. A" 1 .crash).plan
        "delete c.example.com. A" 5 (.error (.provider "memory" "down"))

/-- Starts what can be started, and lets the newest task make its attempts. -/
private def newestTaskOnly : Scheduler (Injected Store) := fun pool =>
  if pool.canStart then .start
  else match pool.active.getLast?, pool.finished with
    | some t, _ => .advance t.index
    | none, f :: _ => .join f.task.index
    | none, [] => .start

private def threeAtOnce : Reconciler (Injected Store) where
  provider := Injected.provider "memory" {} (Store.provider [])
  config := { maxParallel := 3, maxRetries := 1, failurePolicy := .keepGoing }
  scheduler := newestTaskOnly

private def removalsTold : List Event :=
  [.correctionApplied "example.com." 0 "delete a.example.com." 2,
    .correctionFailed "example.com." 1 "delete b.example.com."
      "Correction failed: delete b.example.com.: task aborted" 0,
    .correctionFailed "example.com." 2 "delete c.example.com."
      "Correction failed: delete c.example.com.: Provider error (memory): down" 1,
    .finished "example.com." 1 2 false]

/-- The outcomes are joined in the opposite order of the events that tell them. A channel with
room for one event loses every other one of them to a reader that takes one. -/
theorem apply_announced_removals :
    threeAtOnce.config.validate = .ok () ∧
      (joinedIn (threeAtOnce.trace "example.com." removals (.start unsteady))).map
        (fun e => (e.1, e.2.attempts)) = [(2, 2), (1, 1), (0, 2)] ∧
      (threeAtOnce.apply "example.com." removals (.start unsteady)).2.events = removalsTold ∧
      (Channel.new 1).Drains removalsTold (removalsTold.take 1)
        ⟨1, (removalsTold.drop 2).take 1⟩ ∧
      ∃ told, (threeAtOnce.apply "example.com." removals (.start unsteady)).2.events =
          (Session.start unsteady).events ++ told ∧
        Announced threeAtOnce.config "example.com." removals
          (joinedIn (threeAtOnce.trace "example.com." removals (.start unsteady)))
          (threeAtOnce.apply "example.com." removals (.start unsteady)).1 told ∧
        (∀ (c : Channel) got left, c.Drains told got left →
          (got ++ left.held).Sublist (c.held ++ told)) ∧
        (∀ capacity left, (Channel.new capacity).Drains told [] left →
          left.held = told.take capacity) ∧
        ∀ capacity, ((Channel.new capacity).deliver
          (threeAtOnce.apply "example.com." removals (.start unsteady)).2.notices).Sublist
            ((Session.start unsteady).events ++ told) :=
  ⟨rfl, by decide +kernel, by decide +kernel,
    .send (.send (.take rfl (.send (.send (.nothing _))))),
    apply_announced threeAtOnce rfl "example.com." removals (.start unsteady)⟩

end DnsReconcile
