import DnsReconcile.Snapshot

/-!
Changes: how the desired snapshot differs from the observed one.

A label changes if only one side has it or if the two sides hold different
records under it. Each change carries lines for the reader, which say what
becomes of every record and have no part in planning.
-/

namespace DnsReconcile

inductive ChangeKind where
  /-- Desired and not observed. -/
  | added
  /-- Observed and not desired. -/
  | removed
  /-- Desired and observed, with different records. -/
  | modified
  deriving DecidableEq, Inhabited

def ChangeKind.text : ChangeKind → String
  | added => "added"
  | removed => "removed"
  | modified => "modified"

inductive RecordChange where
  | create (r : Record)
  | delete (r : Record)
  | modify (old new : Record)
  deriving DecidableEq

def RecordChange.text : RecordChange → String
  | create r => s!"CREATE {r.text}"
  | delete r => s!"DELETE {r.text}"
  | modify old new => s!"MODIFY {old.text} -> {new.text}"

def takeWithData (d : RecordData) : List Record → Option (Record × List Record)
  | [] => none
  | r :: rest =>
    if r.data = d then some (r, rest)
    else (takeWithData d rest).map (fun (found, rest) => (found, r :: rest))

/-- Pairs each removed record with the first added one that has its data. The
pairs come with the removed and the added records that are left. -/
def pairByData : List Record → List Record → List RecordChange × List Record × List Record
  | [], added => ([], [], added)
  | r :: rest, added =>
    match takeWithData r.data added with
    | some (s, added) =>
      let (pairs, removed, added) := pairByData rest added
      (.modify r s :: pairs, removed, added)
    | none =>
      let (pairs, removed, added) := pairByData rest added
      (pairs, r :: removed, added)

/-- Pairs removed with added records in their order; those left over on one
side are deleted or created. -/
def pairInOrder : List Record → List Record → List RecordChange
  | r :: removed, s :: added => .modify r s :: pairInOrder removed added
  | removed, [] => removed.map .delete
  | [], added => added.map .create

/-- What becomes of the records of one label: those that keep their data and
change their time to live are paired first, the others in their order. -/
def describeModification (old new : List Record) : List RecordChange :=
  let (pairs, removed, added) :=
    pairByData (old.filter (!new.contains ·)) (new.filter (!old.contains ·))
  pairs ++ pairInOrder removed added

structure Change where
  kind : ChangeKind
  records : List RecordChange
  deriving DecidableEq

namespace Change

def details (c : Change) : List String := c.records.map RecordChange.text

/-- The message of a change: its lines, one under the other. -/
def message (c : Change) : String := String.intercalate "\n" c.details

def between (desired observed : Option (List Record)) : Option Change :=
  match desired, observed with
  | some new, none => some ⟨.added, new.map .create⟩
  | none, some old => some ⟨.removed, old.map .delete⟩
  | some new, some old =>
    if new ≠ old then some ⟨.modified, describeModification old new⟩ else none
  | none, none => none

end Change

/-- The labels that differ, in order, with their changes. -/
structure Changeset where
  changes : List (Label × Change)
  deriving DecidableEq

namespace Changeset

def unionLabels (desired observed : Snapshot) : List Label :=
  SortedList.insertAll desired.labels observed.labels

def diff (desired observed : Snapshot) : Changeset :=
  ⟨(unionLabels desired observed).filterMap (fun l =>
    (Change.between (desired.groups.get? l) (observed.groups.get? l)).map (fun c => (l, c)))⟩

def labelsOf (cs : Changeset) (kind : ChangeKind) : List Label :=
  (cs.changes.filter (fun e => e.2.kind = kind)).map (·.1)

def size (cs : Changeset) : Nat := cs.changes.length

def isEmpty (cs : Changeset) : Bool := cs.changes.isEmpty

end Changeset

end DnsReconcile
