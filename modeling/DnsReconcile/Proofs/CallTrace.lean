import DnsReconcile.Proofs.Application
import DnsReconcile.Proofs.Independence
import DnsReconcile.Proofs.Requests

/-!
The calls of an application that takes one correction after the other.

The calls made for one correction are a block: the one call of its operation, repeated up
to the first success or up to the limit (`Block.Complete`). An application is a list of
blocks for the first corrections of its list, each beginning in the state in which the one
before left the provider. Its calls, the waits between them, what it tells and what it
reports are those of its blocks (`Traced`), whatever the provider answers from call to
call (`Reconciler.apply_traced`).
-/

namespace DnsReconcile

variable {σ τ : Type}

/-- The calls made for one correction: some times the same, the first in the state `start`
of the provider. -/
structure Block (σ : Type) where
  correction : Correction
  start : σ
  calls : Nat

namespace Block

variable (p : Provider σ) (b : Block σ)

def behind (n : Nat) : σ := (fun s => (p.answer b.correction.operation.call s).2)^[n] b.start

/-- The answer to the call with number `n`, counted from one. -/
def answer (n : Nat) : Except Error Unit :=
  (p.answer b.correction.operation.call (b.behind p (n - 1))).1

def last : Except Error Unit := b.answer p b.calls

/-- The call with number `n` is the first that succeeds. -/
def FirstSuccess (n : Nat) : Prop :=
  0 < n ∧ b.answer p n = .ok () ∧ ∀ m, 0 < m → m < n → b.answer p m ≠ .ok ()

/-- The calls go on up to the first success, if it comes within the limit, and otherwise up
to the limit. -/
structure Complete (retries : Nat) : Prop where
  succeeds : ∀ n, b.FirstSuccess p n → n ≤ retries + 1 → b.calls = n
  exhausts : (∀ n, b.FirstSuccess p n → retries + 1 < n) → b.calls = retries + 1

def failureText (e : Error) : String := (Error.mutation b.correction.message e.message).message

def event (zone : String) (i : Nat) : Event :=
  match b.last p with
  | .ok () => .correctionApplied zone i b.correction.message b.calls
  | .error e =>
    .correctionFailed zone i b.correction.message (b.failureText e) (b.calls - 1)

def failure? (i : Nat) : Option CorrectionFailure :=
  match b.last p with
  | .ok () => none
  | .error e => some ⟨i, b.correction.message, b.failureText e⟩

/-- The blocks follow one another: the first begins in the state `s`, and each other in the
state behind the one before. -/
def Linked : σ → List (Block σ) → Prop
  | _, [] => True
  | s, b :: rest => b.start = s ∧ Linked (b.behind p b.calls) rest

end Block

/-- A step of an application: a call, a wait between two calls, or an event. -/
inductive Act where
  | call (o : Operation)
  | wait
  | tell (e : Event)

def Session.act (p : Provider σ) (delay : Nat) (s : Session σ) : Act → Session σ
  | .call o => s.called p (p.answer o.call s.provider).2
  | .wait => s.later delay
  | .tell e => s.emit e

/-- The calls of a block, with a wait between any two. -/
def Block.acts (b : Block σ) : List Act :=
  (List.replicate b.calls (.call b.correction.operation)).intersperse .wait

/-- The steps of some blocks, the first of which is for the correction at place `i`: after
its calls each tells what came of it. -/
def Block.allActs (p : Provider σ) (zone : String) (i : Nat) (bs : List (Block σ)) : List Act :=
  (bs.zipIdx i).flatMap (fun e => e.1.acts ++ [Act.tell (e.1.event p zone e.2)])

/-- The application of a list does what its blocks say and nothing else. -/
structure Traced (r : Reconciler σ) (zone : String) (cs : List Correction) (s : Session σ)
    (blocks : List (Block σ)) : Prop where
  /-- The blocks are for consecutive corrections from the first. -/
  order : blocks.map Block.correction <+: cs
  linked : Block.Linked r.provider s.provider blocks
  complete : ∀ b ∈ blocks, b.Complete r.provider r.config.maxRetries.toNat
  /-- The calls that are made, as a record of them shows. -/
  requests : (r.logged.apply zone cs s.logged).2.provider.requests =
    blocks.flatMap (fun b => List.replicate b.calls (.write b.correction.operation))
  /-- The calls, waits and events in their order. -/
  session : (r.apply zone cs s).2 =
    (Block.allActs r.provider zone 0 blocks ++ [Act.tell (.finished zone
      (r.apply zone cs s).1.applied (r.apply zone cs s).1.failures.length
      (r.apply zone cs s).1.aborted)]).foldl (Session.act r.provider r.config.wait) s
  waited : (r.apply zone cs s).2.clock =
    s.clock + (blocks.map (fun b => (b.calls - 1) * r.config.wait)).sum
  applied : (r.apply zone cs s).1.applied =
    (blocks.filter (fun b => (b.last r.provider).isOk)).length
  failures : (r.apply zone cs s).1.failures =
    blocks.zipIdx.filterMap (fun e => e.1.failure? r.provider e.2)
  /-- Nothing is called behind the first block that failed. -/
  failFast : r.config.failurePolicy = .failFast → ∀ before b after,
    blocks = before ++ b :: after → b.last r.provider ≠ .ok () → after = []
  /-- There is a block for every correction if failures do not end the application. -/
  keepGoing : r.config.failurePolicy = .keepGoing → blocks.map Block.correction = cs
  /-- There is a block for every correction if there are no failures. -/
  succeeds : (∀ b ∈ blocks, b.last r.provider = .ok ()) → blocks.map Block.correction = cs

namespace Block

variable {p : Provider σ} {c : Correction}

/-- The block of a correction that is tried alone from the state `s` on. -/
def alone (p : Provider σ) (retries : Nat) (c : Correction) (s : σ) : Block σ :=
  ⟨c, s, (Attempt.alone (c.apply p) retries s).attempts⟩

def outcome (p : Provider σ) (b : Block σ) : Outcome :=
  ⟨b.calls, (b.last p).mapError b.correction.failure⟩

theorem outcome_alone (p : Provider σ) (retries : Nat) (c : Correction) (s : σ) :
    (alone p retries c s).outcome p = Attempt.alone (c.apply p) retries s :=
  congrArg (Outcome.mk _) (Attempt.ends_alone (c.apply p) retries s).result

private theorem mapError_eq_ok_iff {x : Except Error Unit} {f : Error → Error} :
    x.mapError f = .ok () ↔ x = .ok () := by
  cases x <;> simp [Except.mapError]

theorem outcome_eq_ok_iff {b : Block σ} : (b.outcome p).result = .ok () ↔ b.last p = .ok () :=
  mapError_eq_ok_iff

/-- The calls for a correction that is tried alone end where they should. -/
theorem complete_alone (p : Provider σ) (retries : Nat) (c : Correction) (s : σ) :
    (alone p retries c s).Complete p retries := by
  have hends := Attempt.ends_alone (c.apply p) retries s
  rw [← outcome_alone] at hends
  have hearly : ∀ n, 0 < n → n < (alone p retries c s).calls →
      (alone p retries c s).answer p n ≠ .ok () := by
    intro n hpos hlt hok
    refine hends.early (n - 1) (by rwa [Nat.sub_add_cancel hpos]) ?_
    exact mapError_eq_ok_iff.2 hok
  have hlast : (alone p retries c s).last p ≠ .ok () →
      (alone p retries c s).calls = retries + 1 :=
    fun hfailed => hends.exhausted (mt outcome_eq_ok_iff.1 hfailed)
  constructor
  · rintro n ⟨hpos, hok, hfirst⟩ hle
    rcases Nat.lt_trichotomy (alone p retries c s).calls n with hlt | heq | hgt
    · have hall := hlast (hfirst _ hends.pos hlt)
      omega
    · exact heq
    · exact absurd hok (hearly n hpos hgt)
  · intro hnone
    apply hlast
    intro hok
    have hlt := hnone _ ⟨hends.pos, hok, hearly⟩
    exact absurd hends.le (Nat.not_le_of_lt hlt)

/-- Some calls of one operation, with a wait between any two. -/
private def repeated (o : Operation) (n : Nat) : List Act :=
  (List.replicate n (.call o)).intersperse .wait

private theorem repeated_succ (o : Operation) {n : Nat} (hn : 0 < n) :
    repeated o (n + 1) = .call o :: .wait :: repeated o n := by
  obtain ⟨m, rfl⟩ := Nat.exists_eq_add_one_of_ne_zero (Nat.ne_of_gt hn)
  rfl

private theorem act_call (delay : Nat) {s : Session σ} {result : Except Error Unit} {t : σ}
    (happly : c.apply p s.provider = (result, t)) :
    s.act p delay (.call c.operation) = s.called p t :=
  congrArg (s.called p) (congrArg Prod.snd happly)

/-- The attempts of a correction are the calls of a block. -/
theorem applyWithRetries_eq (p : Provider σ) (delay : Nat) (c : Correction) (retries : Nat)
    (s : Session σ) :
    Reconciler.applyWithRetries p delay c retries s =
      ((alone p retries c s.provider).outcome p,
        (alone p retries c s.provider).acts.foldl (Session.act p delay) s) := by
  change _ = (_, (repeated c.operation _).foldl (Session.act p delay) s)
  rw [outcome_alone, alone]
  induction retries generalizing s with
  | zero =>
    cases happly : c.apply p s.provider with
    | mk result t =>
      have hone : (repeated c.operation 1).foldl (Session.act p delay) s = s.called p t :=
        act_call delay happly
      cases result with
      | ok u => rw [Reconciler.applyWithRetries_ok happly, Attempt.alone, happly, hone]
      | error e => rw [Reconciler.applyWithRetries_last happly, Attempt.alone, happly, hone]
  | succ retries ih =>
    cases happly : c.apply p s.provider with
    | mk result t =>
      have hresult := congrArg Prod.fst happly
      cases result with
      | ok u =>
        rw [Reconciler.applyWithRetries_ok happly, Attempt.alone_of_ok hresult]
        exact congrArg _ (act_call delay happly).symm
      | error e =>
        have hprovider : ((s.called p t).later delay).provider = t :=
          Reconciler.provider_called s p t
        have hafter : Attempt.after (c.apply p) s.provider = t := congrArg Prod.snd happly
        rw [Reconciler.applyWithRetries_again happly, ih, hprovider,
          Attempt.alone_of_error hresult, hafter]
        have hpos := (Attempt.ends_alone (c.apply p) retries t).pos
        simp only [Outcome.later]
        rw [repeated_succ _ hpos, List.foldl_cons, List.foldl_cons, act_call delay happly]
        rfl

private theorem provider_repeated (p : Provider σ) (delay : Nat) (o : Operation) (n : Nat)
    (s : Session σ) :
    ((repeated o n).foldl (Session.act p delay) s).provider =
      (fun t => (p.answer o.call t).2)^[n] s.provider := by
  have hcalled : ∀ s : Session σ,
      (s.act p delay (.call o)).provider = (p.answer o.call s.provider).2 :=
    fun s => Reconciler.provider_called s p _
  induction n generalizing s with
  | zero => rfl
  | succ n ih =>
    cases n with
    | zero => exact hcalled s
    | succ n =>
      rw [repeated_succ _ (Nat.succ_pos n), List.foldl_cons, List.foldl_cons, ih,
        Function.iterate_succ_apply _ (n + 1), ← hcalled]
      rfl

/-- The calls of a block lead to the state behind them. -/
theorem provider_acts (b : Block σ) (delay : Nat) {s : Session σ} (h : s.provider = b.start) :
    (b.acts.foldl (Session.act p delay) s).provider = b.behind p b.calls := by
  rw [behind, ← h]
  exact provider_repeated p delay b.correction.operation b.calls s

end Block

namespace Reconciler

/-- The blocks of some corrections that are tried one after the other from a state on. -/
def blocks (r : Reconciler σ) : List Correction → σ → List (Block σ)
  | [], _ => []
  | c :: rest, s =>
    let b := Block.alone r.provider r.config.maxRetries.toNat c s
    b :: if r.stopsOn (b.outcome r.provider) then []
      else r.blocks rest (b.behind r.provider b.calls)

variable {r : Reconciler σ} {cs : List Correction} {s : σ}

theorem map_correction_blocks (r : Reconciler σ) (cs : List Correction) (s : σ) :
    (r.blocks cs s).map Block.correction <+: cs := by
  induction cs generalizing s with
  | nil => exact List.prefix_rfl
  | cons c rest ih =>
    rw [blocks, List.map_cons]
    refine List.cons_prefix_cons.2 ⟨rfl, ?_⟩
    split
    · exact List.nil_prefix
    · exact ih _

theorem linked_blocks (r : Reconciler σ) (cs : List Correction) (s : σ) :
    Block.Linked r.provider s (r.blocks cs s) := by
  induction cs generalizing s with
  | nil => trivial
  | cons c rest ih =>
    rw [blocks]
    refine ⟨rfl, ?_⟩
    split
    · trivial
    · exact ih _

theorem complete_of_mem_blocks {b : Block σ} (h : b ∈ r.blocks cs s) :
    b.Complete r.provider r.config.maxRetries.toNat := by
  induction cs generalizing s with
  | nil => cases h
  | cons c rest ih =>
    rw [blocks] at h
    rcases List.mem_cons.1 h with rfl | h
    · exact Block.complete_alone _ _ _ _
    · split at h
      · cases h
      · exact ih h

/-- Without a block that ends the application there is one for every correction. -/
theorem map_correction_blocks_eq
    (h : ∀ b ∈ r.blocks cs s, r.stopsOn (b.outcome r.provider) = false) :
    (r.blocks cs s).map Block.correction = cs := by
  induction cs generalizing s with
  | nil => rfl
  | cons c rest ih =>
    rw [blocks] at h ⊢
    obtain ⟨hfirst, hrest⟩ := List.forall_mem_cons.1 h
    rw [if_neg (by simp [hfirst])] at hrest ⊢
    rw [List.map_cons, ih hrest]
    rfl

/-- Nothing comes behind a block that ends the application. -/
theorem eq_nil_of_stopsOn {before after : List (Block σ)} {b : Block σ}
    (h : r.blocks cs s = before ++ b :: after)
    (hstop : r.stopsOn (b.outcome r.provider) = true) : after = [] := by
  induction cs generalizing s before with
  | nil => simp [blocks] at h
  | cons c rest ih =>
    rw [blocks] at h
    cases before with
    | nil =>
      obtain ⟨rfl, hafter⟩ := List.cons.inj h
      rw [if_pos hstop] at hafter
      exact hafter.symm
    | cons d before =>
      obtain ⟨-, hrest⟩ := List.cons.inj h
      split at hrest
      · simp at hrest
      · exact ih hrest

end Reconciler

namespace Block

variable (p : Provider σ) (b : Block σ) (i : Nat)

def tried : Tried := ⟨i, b.correction, b.outcome p⟩

theorem event_tried (zone : String) : (b.tried p i).event zone = b.event p zone i := by
  unfold event Tried.event tried outcome
  cases b.last p <;> rfl

theorem failure?_tried : (b.tried p i).failure? = b.failure? p i := by
  unfold failure? Tried.failure? tried outcome
  cases b.last p <;> rfl

theorem isApplied_tried : (b.tried p i).isApplied = (b.last p).isOk := by
  unfold Tried.isApplied Outcome.isFailure tried outcome
  cases b.last p <;> rfl

theorem allActs_cons (zone : String) (bs : List (Block σ)) :
    allActs p zone i (b :: bs) =
      (b.acts ++ [.tell (b.event p zone i)]) ++ allActs p zone (i + 1) bs := rfl

end Block

namespace Reconciler

variable {r : Reconciler σ}

/-- The corrections of a list are tried as their blocks say. -/
theorem applySequentially_eq (r : Reconciler σ) (cs : List Correction) (i : Nat)
    (a : Application σ) :
    r.triedInOrder (indexed i cs) a =
        ((r.blocks cs a.session.provider).zipIdx i).map (fun e => e.1.tried r.provider e.2) ∧
      (r.applySequentially (indexed i cs) a).2.session =
        (Block.allActs r.provider a.report.zone i (r.blocks cs a.session.provider)).foldl
          (Session.act r.provider r.config.wait) a.session := by
  induction cs generalizing i a with
  | nil => exact ⟨rfl, rfl⟩
  | cons c rest ih =>
    have hprovider := Block.provider_acts (p := r.provider)
      (Block.alone r.provider r.config.maxRetries.toNat c a.session.provider) r.config.wait
      (s := a.session) rfl
    rw [indexed, triedInOrder, applySequentially, blocks, Block.applyWithRetries_eq]
    have hcorrection : (Block.alone r.provider r.config.maxRetries.toNat c
        a.session.provider).correction = c := rfl
    generalize Block.alone r.provider r.config.maxRetries.toNat c a.session.provider = b
      at hprovider hcorrection ⊢
    subst hcorrection
    obtain ⟨hsession, hzone⟩ := a.session_record
      (b.acts.foldl (Session.act r.provider r.config.wait) a.session) i b.correction
      (b.outcome r.provider)
    rw [List.zipIdx_cons, List.map_cons, Block.allActs_cons, List.foldl_append]
    simp only
    generalize Application.record _ i b.correction (b.outcome r.provider) = next
      at hsession hzone ⊢
    have hfirst : (b.acts ++ [Act.tell (b.event r.provider a.report.zone i)]).foldl
        (Session.act r.provider r.config.wait) a.session = next.session := by
      rw [List.foldl_append, hsession, ← Block.event_tried]
      rfl
    have hnext : next.session.provider = b.behind r.provider b.calls := by
      rw [hsession]
      exact hprovider
    rw [hfirst]
    split
    · exact ⟨rfl, rfl⟩
    · obtain ⟨htried, hlater⟩ := ih (i + 1) next
      rw [htried, hlater, hnext, hzone]
      exact ⟨rfl, rfl⟩

end Reconciler

def Act.request? : Act → Option Request
  | call o => some (.write o)
  | wait | tell _ => none

def Act.seconds (delay : Nat) : Act → Nat
  | wait => delay
  | call _ | tell _ => 0

namespace Session

theorem requests_acts (p : Provider σ) (delay : Nat) (acts : List Act) (s : Session (Logged σ)) :
    (acts.foldl (Session.act p.logged delay) s).provider.requests =
      s.provider.requests ++ acts.filterMap Act.request? := by
  induction acts generalizing s with
  | nil => simp
  | cons act rest ih =>
    rw [List.foldl_cons, ih]
    cases act with
    | call o =>
      rw [Session.act, Reconciler.provider_called, List.filterMap_cons]
      simp [Provider.logged, o.request_call, Act.request?]
    | wait => rfl
    | tell e => rfl

theorem clock_acts (p : Provider σ) (delay : Nat) (acts : List Act) (s : Session σ) :
    (acts.foldl (Session.act p delay) s).clock =
      s.clock + (acts.map (Act.seconds delay)).sum := by
  induction acts generalizing s with
  | nil => rfl
  | cons act rest ih =>
    rw [List.foldl_cons, ih, List.map_cons, List.sum_cons, ← Nat.add_assoc]
    congr 1
    cases act with
    | call o =>
      simp only [Session.act, Session.called]
      split <;> rfl
    | wait => rfl
    | tell e => rfl

end Session

namespace Block

variable (p : Provider σ)

private theorem request?_repeated (o : Operation) (n : Nat) :
    (repeated o n).filterMap Act.request? = List.replicate n (.write o) := by
  induction n with
  | zero => rfl
  | succ n ih =>
    cases n with
    | zero => rfl
    | succ n =>
      rw [repeated_succ _ (Nat.succ_pos n), List.replicate_succ, ← ih]
      rfl

private theorem seconds_repeated (delay : Nat) (o : Operation) (n : Nat) :
    ((repeated o n).map (Act.seconds delay)).sum = (n - 1) * delay := by
  induction n with
  | zero => simp [repeated]
  | succ n ih =>
    cases n with
    | zero => simp [repeated, Act.seconds]
    | succ n =>
      rw [repeated_succ _ (Nat.succ_pos n), List.map_cons, List.map_cons, List.sum_cons,
        List.sum_cons, ih]
      simp [Act.seconds, Nat.add_mul, Nat.add_comm]

theorem request?_allActs (zone : String) (i : Nat) (bs : List (Block σ)) :
    (allActs p zone i bs).filterMap Act.request? =
      bs.flatMap (fun b => List.replicate b.calls (.write b.correction.operation)) := by
  induction bs generalizing i with
  | nil => rfl
  | cons b rest ih =>
    have hacts := request?_repeated b.correction.operation b.calls
    rw [allActs_cons, List.filterMap_append, List.filterMap_append, ih, List.flatMap_cons,
      ← hacts]
    exact congrArg (· ++ _) (List.append_nil _)

theorem seconds_allActs (zone : String) (delay i : Nat) (bs : List (Block σ)) :
    ((allActs p zone i bs).map (Act.seconds delay)).sum =
      (bs.map (fun b => (b.calls - 1) * delay)).sum := by
  induction bs generalizing i with
  | nil => rfl
  | cons b rest ih =>
    have hacts : (b.acts.map (Act.seconds delay)).sum = (b.calls - 1) * delay :=
      seconds_repeated delay b.correction.operation b.calls
    rw [allActs_cons, List.map_append, List.map_append, List.sum_append, List.sum_append, ih,
      List.map_cons, List.sum_cons, hacts]
    rfl

def project (f : σ → τ) (b : Block σ) : Block τ := ⟨b.correction, f b.start, b.calls⟩

variable {p : Provider σ} {q : Provider τ} {f : σ → τ}

theorem behind_project (h : p.ProjectsTo q f) (b : Block σ) (n : Nat) :
    (b.project f).behind q n = f (b.behind p n) := by
  induction n with
  | zero => rfl
  | succ n ih =>
    rw [behind, behind, Function.iterate_succ_apply', Function.iterate_succ_apply']
    change (q.answer _ ((b.project f).behind q n)).2 = f (p.answer _ (b.behind p n)).2
    rw [ih, h.answer]
    rfl

theorem outcome_project (h : p.ProjectsTo q f) (b : Block σ) :
    (b.project f).outcome q = b.outcome p := by
  have hlast : (b.project f).last q = b.last p := by
    rw [last, last, answer, answer, behind_project h, h.answer]
    rfl
  rw [outcome, outcome, hlast]
  rfl

end Block

namespace Reconciler

/-- A run that is shown by a map has the blocks that the map shows. -/
theorem blocks_project {r : Reconciler σ} {r' : Reconciler τ} {f : σ → τ}
    (h : r.ProjectsTo r' f) (cs : List Correction) (s : σ) :
    r'.blocks cs (f s) = (r.blocks cs s).map (Block.project f) := by
  induction cs generalizing s with
  | nil => rfl
  | cons c rest ih =>
    have hblock : Block.alone r'.provider r'.config.maxRetries.toNat c (f s) =
        (Block.alone r.provider r.config.maxRetries.toNat c s).project f := by
      rw [Block.alone, Attempt.alone_project (h.provider.apply c), h.config]
      rfl
    have hstops : ∀ o, r'.stopsOn o = r.stopsOn o := fun o => by rw [stopsOn, stopsOn, h.config]
    rw [blocks, blocks, hblock, Block.outcome_project h.provider, List.map_cons, hstops,
      Block.behind_project h.provider, ih]
    split <;> rfl

/-- What the application of a list comes to with one correction under way at a time. -/
private theorem apply_eq (r : Reconciler σ) (hone : ¬ 1 < r.config.maxParallel) (zone : String)
    (cs : List Correction) (s : Session σ) :
    (r.apply zone cs s).2 =
        (Block.allActs r.provider zone 0 (r.blocks cs s.provider) ++ [Act.tell (.finished zone
          (r.apply zone cs s).1.applied (r.apply zone cs s).1.failures.length
          (r.apply zone cs s).1.aborted)]).foldl (Session.act r.provider r.config.wait) s ∧
      (r.apply zone cs s).1.applied =
        ((r.blocks cs s.provider).filter (fun b => (b.last r.provider).isOk)).length ∧
      (r.apply zone cs s).1.failures =
        (r.blocks cs s.provider).zipIdx.filterMap (fun e => e.1.failure? r.provider e.2) := by
  obtain ⟨hjournal, hsession⟩ := r.applySequentially_eq cs 0 ⟨s, { zone, planned := cs.length }⟩
  have hpassed := applyPasses_eq hone (passes cs) ⟨s, { zone, planned := cs.length }⟩
  rw [flatten_passes] at hpassed
  obtain ⟨htries, -⟩ := r.applySequentially_keeps (A := ∅) (nodup_indexed cs)
    (fun e _ => .nothing r.provider e.1 e.2) (fun _ _ => Set.notMem_empty _)
    (a := ⟨s, { zone, planned := cs.length }⟩) trivial
  obtain ⟨told, hran, -⟩ := htries.ran hpassed
  have hpasses : (r.applyPasses (passes cs) ⟨s, { zone, planned := cs.length }⟩).session =
      (r.applySequentially (indexed 0 cs) ⟨s, { zone, planned := cs.length }⟩).2.session := by
    rw [hpassed]
    split <;> rfl
  refine ⟨?_, ?_, ?_⟩
  · rw [List.foldl_append, ← hsession, ← hpasses]
    rfl
  · rw [hran.applied, hjournal, ← List.countP_eq_length_filter, ← List.countP_eq_length_filter,
      List.countP_map]
    conv => rhs; rw [← List.zipIdx_map_fst 0 (r.blocks cs s.provider), List.countP_map]
    exact List.countP_congr (fun e _ => by simp [Block.isApplied_tried])
  · rw [hran.failures, hjournal, List.filterMap_map]
    exact List.filterMap_congr (fun e _ => e.1.failure?_tried r.provider e.2)

private theorem stopsOn_outcome_iff {r : Reconciler σ} {b : Block σ} :
    r.stopsOn (b.outcome r.provider) = true ↔
      r.config.failurePolicy = .failFast ∧ b.last r.provider ≠ .ok () := by
  have hfailed : (b.outcome r.provider).isFailure = true ↔ b.last r.provider ≠ .ok () := by
    rw [Ne, ← Block.outcome_eq_ok_iff, Outcome.isFailure]
    cases (b.outcome r.provider).result <;> simp
  rw [stopsOn, Bool.and_eq_true, decide_eq_true_eq, hfailed]

/-- With one correction under way at a time, whatever the provider answers from call to call,
the calls of an application are those of a list of blocks: each correction in turn is tried
until it succeeds or has no attempts left, and the last answer decides what is told,
reported and done next. -/
theorem apply_traced (r : Reconciler σ) (hone : r.config.maxParallel = 1) (zone : String)
    (cs : List Correction) (s : Session σ) : ∃ blocks, Traced r zone cs s blocks := by
  have hnot : ¬ 1 < r.config.maxParallel := by
    rw [hone]
    decide
  obtain ⟨hsession, happlied, hfailures⟩ := r.apply_eq hnot zone cs s
  refine ⟨r.blocks cs s.provider, r.map_correction_blocks cs s.provider,
    r.linked_blocks cs s.provider, fun b hb => complete_of_mem_blocks hb, ?_, hsession, ?_,
    happlied, hfailures, ?_, ?_, ?_⟩
  · have hlogged := (r.logged.apply_eq hnot zone cs s.logged).1
    have hblocks : r.blocks cs s.provider = _ :=
      blocks_project r.logged_projectsTo cs s.logged.provider
    rw [hlogged, logged, Session.requests_acts, List.filterMap_append, Block.request?_allActs,
      hblocks, List.flatMap_map]
    exact List.append_nil _
  · rw [hsession, Session.clock_acts, List.map_append, List.sum_append, Block.seconds_allActs]
    rfl
  · intro hpolicy before b after hsplit hfailed
    exact eq_nil_of_stopsOn hsplit (stopsOn_outcome_iff.2 ⟨hpolicy, hfailed⟩)
  · intro hpolicy
    refine map_correction_blocks_eq (fun b _ => Bool.eq_false_iff.2 (fun hstop => ?_))
    rw [stopsOn_outcome_iff, hpolicy] at hstop
    cases hstop.1
  · intro hok
    refine map_correction_blocks_eq (fun b hb => Bool.eq_false_iff.2 (fun hstop => ?_))
    exact (stopsOn_outcome_iff.1 hstop).2 (hok b hb)

private def threeSteps : List Correction :=
  [⟨"delete a", ⟨"example.com.", "a.example.com.", .a, .delete⟩⟩,
    ⟨"update b", ⟨"example.com.", "b.example.com.", .a, .update ⟨300, []⟩⟩⟩,
    ⟨"delete c", ⟨"example.com.", "c.example.com.", .a, .delete⟩⟩]

/-- The first deletion fails once, and the update as often as it is tried. -/
private def intermittent : Injected Store :=
  (((Injected.start ((Store.empty.seed "example.com" "a.example.com" .a ⟨300, []⟩).seed
    "example.com" "b.example.com" .a ⟨300, []⟩)).plan "delete a.example.com. A" 1
      (.error (.provider "memory" "busy"))).plan "update b.example.com. A" 9
      (.error (.provider "memory" "down")))

private def retryingOnce : Reconciler (Injected Store) where
  provider := Injected.provider "memory" {} (Store.provider [])
  config := { maxRetries := 1, retryDelay := 5 }
  scheduler := .virtualTime

/-- One retry is enough for the first correction and not for the second, and the third is not
tried. -/
theorem apply_traced_intermittent :
    retryingOnce.config.maxParallel = 1 ∧
      (retryingOnce.apply "example.com." threeSteps (.start intermittent)).2.provider.calls =
        ["delete a.example.com. A", "delete a.example.com. A", "update b.example.com. A",
          "update b.example.com. A"] ∧
      (retryingOnce.apply "example.com." threeSteps (.start intermittent)).2.clock = 10 ∧
      (retryingOnce.apply "example.com." threeSteps (.start intermittent)).1 =
        { zone := "example.com.", planned := 3, applied := 1, aborted := true
          failures := [⟨1, "update b",
            "Correction failed: update b: Provider error (memory): down"⟩] } ∧
      ∃ blocks, Traced retryingOnce "example.com." threeSteps (.start intermittent) blocks :=
  ⟨rfl, by decide +kernel, by decide +kernel, by decide +kernel,
    apply_traced retryingOnce rfl "example.com." threeSteps (.start intermittent)⟩

end Reconciler

end DnsReconcile
