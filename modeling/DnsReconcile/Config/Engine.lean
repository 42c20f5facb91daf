import DnsReconcile.Config.Fault

/-!
How corrections are applied.
-/

namespace DnsReconcile

inductive FailurePolicy where
  /-- Nothing more is started, as later corrections may depend on it. -/
  | failFast
  /-- The failure is recorded and the others are still tried. -/
  | keepGoing
  deriving DecidableEq, Inhabited

structure EngineConfig where
  /-- Further attempts before a correction counts as failed. -/
  maxRetries : UInt64 := 0
  /-- The seconds between two attempts, as they are asked for. -/
  retryDelay : UInt64 := 1
  failurePolicy : FailurePolicy := .failFast
  /-- How many corrections of one pass may be under way at once. -/
  maxParallel : UInt64 := 1
  /-- Whether zones that the provider does not host are created. -/
  createMissingZones : Bool := true
  /-- How many events are kept for a reader. -/
  eventCapacity : UInt64 := 1000
  deriving DecidableEq

namespace EngineConfig

instance : Inhabited EngineConfig := ⟨{}⟩

/-- Accepts settings under which something can be started and told. -/
def validate (e : EngineConfig) : Except ConfigFault Unit :=
  if e.maxParallel = 0 then .error .noParallelism
  else if e.eventCapacity = 0 then .error .noEventCapacity
  else .ok ()

/-- The longest time between two attempts, in seconds: thirty years of 365
days. -/
def longestWait : Nat := 30 * 365 * 86400

def wait (e : EngineConfig) : Nat := min e.retryDelay.toNat longestWait

end EngineConfig

end DnsReconcile
