/-!
Events of a run, and the channel that carries them to a reader.

The channel never holds a run up. It keeps events up to its capacity until the
reader takes them; an event for which there is no room is lost. A reader that
shares a thread with the run gets its turn only while the run waits.
-/

namespace DnsReconcile

inductive Event where
  | started (zone : String)
  | zoneCreated (zone : String)
  | planReady (zone : String) (corrections : Nat)
  /-- There is nothing to correct. -/
  | inSync (zone : String)
  | correctionApplied (zone : String) (index : Nat) (message : String) (attempts : Nat)
  /-- A correction failed in all of its attempts. -/
  | correctionFailed (zone : String) (index : Nat) (message error : String) (retries : Nat)
  /-- The corrections of a zone are through. -/
  | finished (zone : String) (applied failed : Nat) (aborted : Bool)
  deriving DecidableEq

/-- What a run does as far as a reader of its events is concerned. -/
inductive Notice where
  /-- It tells an event. -/
  | event (e : Event)
  /-- It waits, which gives a reader its turn. -/
  | pause
  deriving DecidableEq

def Notice.event? : Notice → Option Event
  | event e => some e
  | pause => none

/-- A channel with the events that wait in it, oldest first. -/
structure Channel where
  capacity : Nat
  held : List Event
  deriving DecidableEq

namespace Channel

def new (capacity : Nat) : Channel := ⟨capacity, []⟩

def send (c : Channel) (e : Event) : Channel :=
  if c.held.length < c.capacity then { c with held := c.held ++ [e] } else c

def sendAll (c : Channel) (es : List Event) : Channel := es.foldl send c

def drained (c : Channel) : Channel := { c with held := [] }

/-- What a reader gets that takes all that is held at each pause, and once more
at the end. -/
def deliver (c : Channel) : List Notice → List Event
  | [] => c.held
  | .event e :: rest => (c.send e).deliver rest
  | .pause :: rest => c.held ++ c.drained.deliver rest

end Channel

end DnsReconcile
