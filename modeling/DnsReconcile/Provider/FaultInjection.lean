import DnsReconcile.Provider

/-!
A provider in front of another one, which records every call and lets planned
ones fail.

A failure is planned for the line that tells a call, a number of times. A call
that fails does not reach the provider behind. A planned crash, which only a
call made by a task of its own can meet, ends that task instead of answering.
-/

namespace DnsReconcile

/-- What happens instead of an answer. -/
inductive Fault where
  | error (e : Error)
  | crash
  deriving DecidableEq

/-- A fault that is left for some calls. -/
structure PlannedFault where
  line : String
  times : Nat
  fault : Fault
  deriving DecidableEq

structure Injected (σ : Type) where
  inner : σ
  faults : List PlannedFault
  /-- The lines of the calls so far, newest first. -/
  newestFirst : List String
  /-- References added to every listing. -/
  extraRefs : List SetRef

namespace Injected

variable {σ : Type}

def start (inner : σ) : Injected σ := ⟨inner, [], [], []⟩

/-- Plans a fault for the next calls with a line, in place of the one planned
before. -/
def plan (s : Injected σ) (line : String) (times : Nat) (fault : Fault) : Injected σ :=
  { s with faults := ⟨line, times, fault⟩ :: s.faults.filter (·.line ≠ line) }

def faultFor? (s : Injected σ) (line : String) : Option Fault :=
  (s.faults.find? (fun f => f.line = line && 0 < f.times)).map (·.fault)

def record (s : Injected σ) (line : String) : Injected σ :=
  { s with
    newestFirst := line :: s.newestFirst
    faults := s.faults.map (fun f => if f.line = line then { f with times := f.times - 1 } else f) }

def calls (s : Injected σ) : List String := s.newestFirst.reverse

def forward (p : Provider σ) {α : Type} (c : Call α) (s : Injected σ) :
    Except Error α × Injected σ :=
  let (outcome, inner) := p.answer c s.inner
  (outcome, { s with inner })

def withExtraRefs {α : Type} (c : Call α) (refs : List SetRef) (answer : α) : α :=
  match c with
  | .list _ => answer ++ refs
  | _ => answer

def answer (p : Provider σ) {α : Type} (c : Call α) (s : Injected σ) :
    Except Error α × Injected σ :=
  match s.faultFor? c.text with
  | some (.error e) => (.error e, s.record c.text)
  | _ =>
    let (outcome, s) := forward p c (s.record c.text)
    (outcome.map (withExtraRefs c s.extraRefs), s)

/-- The end of a task that makes a call, if a crash is planned for it. -/
def crash {α : Type} (c : Call α) (s : Injected σ) : Option (Injected σ) :=
  match s.faultFor? c.text with
  | some .crash => some (s.record c.text)
  | _ => none

/-- The provider `p` under another name and with other capabilities, with
planned failures in front of it. -/
def provider (name : String) (capabilities : Capabilities) (p : Provider σ) :
    Provider (Injected σ) :=
  { name, capabilities, answer := answer p, crash }

end Injected

end DnsReconcile
