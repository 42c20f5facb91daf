import DnsReconcile.Config.Engine
import DnsReconcile.Correction

/-!
Corrections of one pass, several of them under way at once.

A pool starts corrections in their order as long as fewer are under way than
the limit allows. Each that is under way makes its attempts, one call each, in
any interleaving with the others. When no more can be started, a finished one
is joined, and its outcome is seen only then. Under the fail-fast policy
nothing is started any more once a failure has been seen, but what is under way
is still finished and joined.

A scheduler picks the next move of a pool; `Scheduler.virtualTime` is the one
that follows a clock which only retry delays move.
-/

namespace DnsReconcile

structure Outcome where
  attempts : Nat
  result : Except Error Unit

def Outcome.isFailure (o : Outcome) : Bool :=
  match o.result with
  | .ok _ => false
  | .error _ => true

def Outcome.ofDeath (c : Correction) : Outcome :=
  ⟨1, .error (.mutation c.message "task aborted")⟩

structure Task where
  /-- The place of the correction in the whole list. -/
  index : Nat
  correction : Correction
  attempts : Nat
  /-- The time before which the next attempt is not made. -/
  readyAt : Nat

/-- A task that made its last attempt. -/
structure FinishedTask where
  task : Task
  outcome : Outcome

inductive Move where
  | start
  | advance (index : Nat)
  | join (index : Nat)
  deriving DecidableEq, Inhabited

structure Pool (σ : Type) where
  config : EngineConfig
  /-- The corrections that are not started, with their indices. -/
  waiting : List (Nat × Correction)
  /-- The tasks that have attempts left, in the order of their start. -/
  active : List Task
  /-- The tasks to be joined, in the order of their end. -/
  finished : List FinishedTask
  /-- The outcomes that were joined, by index. -/
  outcomes : SortedMap Nat Outcome
  /-- Whether a failure has been seen. -/
  failureSeen : Bool
  provider : σ
  clock : Nat
  /-- The moves so far, newest first. -/
  history : List Move

namespace Pool

variable {σ : Type}

def new (config : EngineConfig) (corrections : List (Nat × Correction)) (provider : σ)
    (clock : Nat) : Pool σ :=
  { config, waiting := corrections, active := [], finished := [], outcomes := .empty,
    failureSeen := false, provider, clock, history := [] }

/-- The number of tasks that are started and not joined. -/
def unjoined (pool : Pool σ) : Nat := pool.active.length + pool.finished.length

/-- Whether nothing may be started any more. -/
def isStopped (pool : Pool σ) : Bool :=
  pool.config.failurePolicy = .failFast && pool.failureSeen

def canStart (pool : Pool σ) : Bool :=
  !pool.waiting.isEmpty && pool.unjoined < pool.config.maxParallel.toNat && !pool.isStopped

def isDone (pool : Pool σ) : Bool :=
  pool.active.isEmpty && pool.finished.isEmpty && !pool.canStart

def finish (pool : Pool σ) (t : Task) (outcome : Outcome) : Pool σ :=
  { pool with
    active := pool.active.filter (·.index ≠ t.index)
    finished := pool.finished ++ [⟨t, outcome⟩] }

def retry (pool : Pool σ) (t : Task) : Pool σ :=
  { pool with
    active := pool.active.map (fun u =>
      if u.index = t.index then
        { t with attempts := t.attempts + 1, readyAt := pool.clock + pool.config.wait }
      else u) }

def attempt (p : Provider σ) (pool : Pool σ) (t : Task) : Pool σ :=
  let pool := { pool with clock := max pool.clock t.readyAt }
  match p.crash t.correction.operation.call pool.provider with
  | some s => { pool with provider := s }.finish t (.ofDeath t.correction)
  | none =>
    let (result, s) := t.correction.apply p pool.provider
    let pool := { pool with provider := s }
    match result with
    | .ok () => pool.finish t ⟨t.attempts + 1, result⟩
    | .error _ =>
      if t.attempts < pool.config.maxRetries.toNat then pool.retry t
      else pool.finish t ⟨t.attempts + 1, result⟩

def joined (pool : Pool σ) (f : FinishedTask) : Pool σ :=
  { pool with
    finished := pool.finished.filter (·.task.index ≠ f.task.index)
    outcomes := pool.outcomes.insert f.task.index f.outcome
    failureSeen := pool.failureSeen || f.outcome.isFailure }

/-- The pool behind a move, without the record of it. -/
def move? (p : Provider σ) (pool : Pool σ) : Move → Option (Pool σ)
  | .start =>
    match pool.canStart, pool.waiting with
    | true, (i, c) :: rest =>
      some { pool with waiting := rest, active := pool.active ++ [⟨i, c, 0, pool.clock⟩] }
    | _, _ => none
  | .advance i => (pool.active.find? (·.index = i)).map (pool.attempt p)
  | .join i =>
    if pool.canStart then none
    else (pool.finished.find? (·.task.index = i)).map pool.joined

/-- The pool behind a move that is possible in it. -/
def step? (p : Provider σ) (pool : Pool σ) (m : Move) : Option (Pool σ) :=
  (pool.move? p m).map (fun next => { next with history := m :: pool.history })

end Pool

/-- Picks the next move of a pool. -/
def Scheduler (σ : Type) : Type := Pool σ → Move

namespace Scheduler

variable {σ : Type}

/-- The first of the tasks that are ready soonest. -/
def soonest? : List Task → Option Task
  | [] => none
  | t :: rest =>
    match soonest? rest with
    | none => some t
    | some u => if u.readyAt < t.readyAt then some u else some t

/-- Starts what can be started, joins what is finished in the order in which it
finished, and else lets the task that is ready soonest make its attempt; of
several, the one that was started first. -/
def virtualTime : Scheduler σ := fun pool =>
  if pool.canStart then .start
  else match pool.finished with
    | f :: _ => .join f.task.index
    | [] =>
      match soonest? pool.active with
      | some t => .advance t.index
      | none => .start

end Scheduler

namespace Pool

variable {σ : Type}

/-- The pool behind the move that a scheduler picks. Where that move is not
possible, the move of the clock is made instead. -/
def next? (p : Provider σ) (scheduler : Scheduler σ) (pool : Pool σ) : Option (Pool σ) :=
  match pool.step? p (scheduler pool) with
  | some next => some next
  | none => pool.step? p (Scheduler.virtualTime pool)

def run (p : Provider σ) (scheduler : Scheduler σ) : Nat → Pool σ → Pool σ
  | 0, pool => pool
  | fuel + 1, pool =>
    if pool.isDone then pool
    else match pool.next? p scheduler with
      | some next => run p scheduler fuel next
      | none => pool

/-- The number of moves that a correction takes at most: its start, its
attempts and its joining. -/
def movesPerCorrection (config : EngineConfig) : Nat := config.maxRetries.toNat + 3

def drain (p : Provider σ) (scheduler : Scheduler σ) (pool : Pool σ) : Pool σ :=
  pool.run p scheduler (pool.waiting.length * movesPerCorrection pool.config)

end Pool

end DnsReconcile
