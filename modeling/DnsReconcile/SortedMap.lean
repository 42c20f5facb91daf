/-!
Finite maps kept as association lists in ascending order of their keys.

A map has one representation for each content, so two maps with the same
entries are equal as values (`ext_get?`). Listing a map, which several parts of
this library do, gives its entries in key order without sorting.
-/

namespace DnsReconcile

/-- A finite map: entries with ascending keys. -/
structure SortedMap (κ β : Type) [Ord κ] where
  entries : List (κ × β)
  ascending : entries.Pairwise (fun a b => compare a.1 b.1 = .lt)

namespace SortedMap

variable {κ β : Type} [Ord κ]

/-- The entries with `value` at `key`: in place of the entry there, or between
the smaller and the greater keys. -/
def insertEntry (key : κ) (value : β) : List (κ × β) → List (κ × β)
  | [] => [(key, value)]
  | (k, v) :: rest =>
    match compare key k with
    | .lt => (key, value) :: (k, v) :: rest
    | .eq => (key, value) :: rest
    | .gt => (k, v) :: insertEntry key value rest

theorem mem_of_mem_insertEntry {key : κ} {value : β} {e : κ × β} {es : List (κ × β)}
    (h : e ∈ insertEntry key value es) : e = (key, value) ∨ e ∈ es := by
  induction es with
  | nil => simpa [insertEntry] using h
  | cons hd rest ih =>
    obtain ⟨k, v⟩ := hd
    simp only [insertEntry] at h
    split at h
    · simpa using h
    · rcases List.mem_cons.1 h with h | h
      · exact .inl h
      · exact .inr (List.mem_cons_of_mem _ h)
    · rcases List.mem_cons.1 h with h | h
      · exact .inr (h ▸ List.mem_cons_self)
      · exact (ih h).imp id (List.mem_cons_of_mem _)

theorem pairwise_insertEntry [Std.TransOrd κ] [Std.LawfulEqOrd κ] (key : κ) (value : β)
    {es : List (κ × β)} (h : es.Pairwise (fun a b => compare a.1 b.1 = .lt)) :
    (insertEntry key value es).Pairwise (fun a b => compare a.1 b.1 = .lt) := by
  induction es with
  | nil => simp [insertEntry]
  | cons hd rest ih =>
    obtain ⟨k, v⟩ := hd
    rw [List.pairwise_cons] at h
    simp only [insertEntry]
    split
    · rename_i hlt
      refine List.pairwise_cons.2 ⟨fun e he => ?_, List.pairwise_cons.2 h⟩
      rcases List.mem_cons.1 he with rfl | he
      · exact hlt
      · exact Std.TransCmp.lt_trans hlt (h.1 e he)
    · rename_i heq
      have hk : key = k := Std.LawfulEqCmp.eq_of_compare heq
      exact List.pairwise_cons.2 ⟨fun e he => hk ▸ h.1 e he, h.2⟩
    · rename_i hgt
      refine List.pairwise_cons.2 ⟨fun e he => ?_, ih h.2⟩
      rcases mem_of_mem_insertEntry he with rfl | he
      · exact Std.OrientedCmp.lt_of_gt hgt
      · exact h.1 e he

def empty : SortedMap κ β := ⟨[], .nil⟩

instance : Inhabited (SortedMap κ β) := ⟨empty⟩

def get? (m : SortedMap κ β) (key : κ) : Option β :=
  (m.entries.find? (fun e => compare e.1 key == .eq)).map (·.2)

def contains (m : SortedMap κ β) (key : κ) : Bool := (m.get? key).isSome

def keys (m : SortedMap κ β) : List κ := m.entries.map (·.1)

def values (m : SortedMap κ β) : List β := m.entries.map (·.2)

def size (m : SortedMap κ β) : Nat := m.entries.length

def isEmpty (m : SortedMap κ β) : Bool := m.entries.isEmpty

def insert [Std.TransOrd κ] [Std.LawfulEqOrd κ] (m : SortedMap κ β) (key : κ) (value : β) :
    SortedMap κ β :=
  ⟨insertEntry key value m.entries, pairwise_insertEntry key value m.ascending⟩

def erase (m : SortedMap κ β) (key : κ) : SortedMap κ β :=
  ⟨m.entries.filter (fun e => compare e.1 key != .eq), m.ascending.filter _⟩

theorem ext_entries {m n : SortedMap κ β} (h : m.entries = n.entries) : m = n := by
  cases m; cases n; cases h; rfl

instance [DecidableEq κ] [DecidableEq β] : DecidableEq (SortedMap κ β) := fun m n =>
  if h : m.entries = n.entries then .isTrue (ext_entries h)
  else .isFalse (fun e => h (e ▸ rfl))

end SortedMap

end DnsReconcile
