import DnsReconcile.Record
import DnsReconcile.SortedList
import DnsReconcile.SortedMap

/-!
Snapshots: the records of one side of a comparison, grouped by label.

The groups stand in the order of their labels and the members of a group in
the order of records, each record once, so that a snapshot is the same however
the records were listed.
-/

namespace DnsReconcile

/-- Groups of records by label. -/
structure Snapshot where
  groups : SortedMap Label (List Record)
  deriving DecidableEq

namespace Snapshot

def empty : Snapshot := ⟨.empty⟩

/-- The members of the group at a label; none without a group. -/
def members (s : Snapshot) (l : Label) : List Record := (s.groups.get? l).getD []

def insert (s : Snapshot) (r : Record) : Snapshot :=
  ⟨s.groups.insert r.label (SortedList.insert r (s.members r.label))⟩

def group (rs : List Record) : Snapshot := rs.foldl insert empty

def labels (s : Snapshot) : List Label := s.groups.keys

def records (s : Snapshot) : List Record := s.groups.values.flatten

end Snapshot

end DnsReconcile
