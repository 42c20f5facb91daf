import DnsReconcile.Changeset
import DnsReconcile.Provider

/-!
Corrections: the calls that make the observed state the desired one.

All deletions come before all other corrections. A provider refuses a set
beside one of a conflicting type under the same name, so a label whose type
changes can only be written once the old type is gone. A label that is modified
is written over and never deleted.
-/

namespace DnsReconcile

/-- The part of a run that a correction belongs to. -/
inductive Pass where
  /-- Deletions. -/
  | destructive
  /-- All other corrections. -/
  | constructive
  deriving DecidableEq, Inhabited

def Pass.text : Pass → String
  | destructive => "Destructive"
  | constructive => "Constructive"

inductive Action where
  | create (set : NativeSet)
  | update (set : NativeSet)
  | delete
  deriving Inhabited

namespace Action

def verb : Action → String
  | create _ => "create"
  | update _ => "update"
  | delete => "delete"

def pass : Action → Pass
  | delete => .destructive
  | create _ | update _ => .constructive

def set? : Action → Option NativeSet
  | create set => some set
  | update set => some set
  | delete => none

end Action

structure Operation where
  zone : String
  name : String
  type : RecordType
  action : Action
  deriving Inhabited

namespace Operation

def label (o : Operation) : Label := .new o.name o.type

/-- The one call that carries the operation out. -/
def call (o : Operation) : Call Unit :=
  match o.action with
  | .create set => .create o.zone o.name o.type set
  | .update set => .update o.zone o.name o.type set
  | .delete => .delete o.zone o.name o.type

def text (o : Operation) : String := s!"{o.action.verb} {o.label.text} in {o.zone}"

end Operation

structure Correction where
  message : String
  operation : Operation
  deriving Inhabited

namespace Correction

def pass (c : Correction) : Pass := c.operation.action.pass

def failure (c : Correction) (cause : Error) : Error := .mutation c.message cause.message

def apply {σ : Type} (c : Correction) (p : Provider σ) (s : σ) : Except Error Unit × σ :=
  let (outcome, s) := p.answer c.operation.call s
  (outcome.mapError c.failure, s)

def deletion (zone : Name) (l : Label) (c : Change) : Correction :=
  ⟨c.message, ⟨zone.text, l.name.text, l.type, .delete⟩⟩

def writing? : ChangeKind → Option (NativeSet → Action)
  | .added => some .create
  | .modified => some .update
  | .removed => none

/-- The corrections that write the added and modified ones of some labels with
their desired records. -/
def writes (zone : Name) (desired : Snapshot) (capabilities : Capabilities) :
    List (Label × Change) → Except Error (List Correction)
  | [] => .ok []
  | (l, c) :: rest =>
    match writing? c.kind with
    | none => writes zone desired capabilities rest
    | some action => do
      match ← NativeSet.ofRecords capabilities (desired.members l) with
      | none => throw (.planningInvariant l.text (action default).verb)
      | some set =>
        let corrections ← writes zone desired capabilities rest
        return ⟨c.message, ⟨zone.text, l.name.text, l.type, action set⟩⟩ :: corrections

/-- The corrections for some changes, in the order in which they are applied. A
changed label without desired records would be skipped in silence, so it is an
error. -/
def plan (zone : String) (desired : Snapshot) (changes : Changeset)
    (capabilities : Capabilities) : Except Error (List Correction) := do
  let zone := Name.ofString zone
  let removed := changes.changes.filter (fun e => e.2.kind = .removed)
  let deletions := removed.map (fun e => deletion zone e.1 e.2)
  let corrections ← writes zone desired capabilities changes.changes
  return deletions ++ corrections

/-- The corrections that make observed records the desired ones. There are none
exactly when the two lists hold the same records. -/
def compute (zone : String) (desired observed : List Record) (capabilities : Capabilities) :
    Except Error (List Correction) :=
  let desired := Snapshot.group desired
  let changes := Changeset.diff desired (Snapshot.group observed)
  if changes.isEmpty then .ok [] else plan zone desired changes capabilities

end Correction

end DnsReconcile
