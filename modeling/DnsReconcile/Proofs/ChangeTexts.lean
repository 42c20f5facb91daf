import DnsReconcile.Proofs.RecordText

/-!
The lines of a changed label, as they are read.

A line is `MODIFY old -> new`, `DELETE r` or `CREATE r` with the texts of the records it is
about (`Account.lines`). The lines for two groups are those of an account that settles their
difference, and so are the details of every change between two lists of records
(`describeModification_describes`).
-/

namespace DnsReconcile

namespace Account

def lines (a : Account) : List String :=
  a.replaced.map (fun p => "MODIFY " ++ p.1.text ++ " -> " ++ p.2.text) ++
    a.deleted.map (fun r => "DELETE " ++ r.text) ++ a.created.map (fun r => "CREATE " ++ r.text)

theorem map_text_changes (a : Account) : a.changes.map RecordChange.text = a.lines := by
  simp only [changes, lines, List.map_append, List.map_map]
  rfl

theorem mem_lines {a : Account} {line : String} : line ∈ a.lines ↔
    (∃ p ∈ a.replaced, "MODIFY " ++ p.1.text ++ " -> " ++ p.2.text = line) ∨
      (∃ r ∈ a.deleted, "DELETE " ++ r.text = line) ∨
      ∃ r ∈ a.created, "CREATE " ++ r.text = line := by
  simp only [lines, List.mem_append, List.mem_map, or_assoc]

/-- The first letter of a line tells its verb. -/
private theorem head?_of_mem_lines {a : Account} {line : String} (h : line ∈ a.lines) :
    line.toList.head? = some 'M' ∨ line.toList.head? = some 'D' ∧ a.deleted ≠ [] ∨
      line.toList.head? = some 'C' ∧ a.created ≠ [] := by
  obtain ⟨p, -, rfl⟩ | ⟨r, hr, rfl⟩ | ⟨r, hr, rfl⟩ := mem_lines.1 h
  · exact .inl (by simp)
  · exact .inr (.inl ⟨by simp, List.ne_nil_of_mem hr⟩)
  · exact .inr (.inr ⟨by simp, List.ne_nil_of_mem hr⟩)

theorem Settles.oneSided_lines {a : Account} {old new : List Record} (h : a.Settles old new) :
    ¬ ((∃ s, "DELETE " ++ s ∈ a.lines) ∧ ∃ s, "CREATE " ++ s ∈ a.lines) := by
  rintro ⟨⟨s, hs⟩, t, ht⟩
  have hdeleted : a.deleted ≠ [] := by simpa using head?_of_mem_lines hs
  have hcreated : a.created ≠ [] := by simpa using head?_of_mem_lines ht
  exact h.oneSided.elim hdeleted hcreated

end Account

/-- Lines that tell the step from the group `old` of a label to the group `new`. -/
structure Describes (old new : List Record) (lines : List String) : Prop where
  /-- The records that only one group has stand in the lines, each once and on the side of its
  group, and no other record does. The lines of records that keep their data come first, and
  there are as many as there can be. -/
  account : ∃ a : Account, a.Settles old new ∧ a.removed.Nodup ∧ a.added.Nodup ∧ lines = a.lines
  length : lines.length = max (onlyIn old new).length (onlyIn new old).length
  oneSided : ¬ ((∃ s, "DELETE " ++ s ∈ lines) ∧ ∃ s, "CREATE " ++ s ∈ lines)
  /-- What stands in a line is the text of one record only. -/
  told : ∀ r ∈ old ++ new, ∀ s ∈ old ++ new, r.zone = s.zone → r.label = s.label →
    r.text = s.text → r = s
  silent : lines = [] ↔ old = new

private theorem describes_describeModification {old new : List Record} (hold : Ascending old)
    (hnew : Ascending new) :
    Describes old new ((describeModification old new).map RecordChange.text) := by
  obtain ⟨a, hsettles, hchanges⟩ := exists_account old new
  have hlines : (describeModification old new).map RecordChange.text = a.lines := by
    rw [hchanges, a.map_text_changes]
  have hlength : ((describeModification old new).map RecordChange.text).length =
      max (onlyIn old new).length (onlyIn new old).length := by
    rw [List.length_map, hchanges, hsettles.length_changes]
  constructor
  case account =>
    refine ⟨a, hsettles, ?_, ?_, hlines⟩
    · exact hsettles.removed.nodup_iff.2 (hold.filter _).nodup
    · exact hsettles.added.nodup_iff.2 (hnew.filter _).nodup
  case length => exact hlength
  case oneSided =>
    rw [hlines]
    exact hsettles.oneSided_lines
  case told => exact fun r _ s _ => Record.eq_of_text_eq
  case silent =>
    rw [eq_iff_onlyIn hold hnew, ← List.length_eq_zero_iff, ← List.length_eq_zero_iff,
      ← List.length_eq_zero_iff, hlength]
    omega

/-- The lines of a changed label account for every record that one of its two groups has and
the other has not, and so do the details of every change between two lists of records. -/
theorem describeModification_describes :
    (∀ old new : List Record, Ascending old → Ascending new →
      Describes old new ((describeModification old new).map RecordChange.text)) ∧
    ∀ desired observed : List Record, ∀ l c,
      (l, c) ∈ (Changeset.diff (.group desired) (.group observed)).changes →
      Describes (recordsAt l observed) (recordsAt l desired) c.details := by
  constructor
  · exact fun old new hold hnew => describes_describeModification hold hnew
  · intro desired observed l c hc
    rw [Change.details, Changeset.records_of_mem_diff hc]
    exact describes_describeModification (SortedList.ascending_ofList _)
      (SortedList.ascending_ofList _)

private def address (ttl : UInt32) (last : UInt8) : Record :=
  .new "example.com" "www.example.com" ttl (.a ⟨192, 0, 2, last⟩)

/-- One address with two times to live, and three others. -/
private def oldAddresses : List Record :=
  [address 60 1, address 60 2, address 120 1, address 120 3, address 300 9]

/-- The address has two other times to live, and one address is left as it is. -/
private def newAddresses : List Record :=
  [address 30 3, address 90 1, address 240 7, address 300 9]

/-- Of two records with one data one is paired by it, although an added one precedes; what
is left is paired in order, and the last record is deleted. -/
theorem describeModification_describes_ttls :
    Ascending oldAddresses ∧ Ascending newAddresses ∧
      (describeModification oldAddresses newAddresses).map RecordChange.text =
        ["MODIFY www.example.com. 60 A 192.0.2.1 -> www.example.com. 90 A 192.0.2.1",
          "MODIFY www.example.com. 120 A 192.0.2.3 -> www.example.com. 30 A 192.0.2.3",
          "MODIFY www.example.com. 60 A 192.0.2.2 -> www.example.com. 240 A 192.0.2.7",
          "DELETE www.example.com. 120 A 192.0.2.1"] ∧
      sharedData (onlyIn oldAddresses newAddresses) (onlyIn newAddresses oldAddresses) = 2 ∧
      Describes oldAddresses newAddresses
        ((describeModification oldAddresses newAddresses).map RecordChange.text) ∧
      ∃ c, ((address 60 1).label, c) ∈
          (Changeset.diff (.group newAddresses) (.group oldAddresses)).changes ∧
        c.details = (describeModification oldAddresses newAddresses).map RecordChange.text ∧
        Describes oldAddresses newAddresses c.details := by
  have hold : Ascending oldAddresses := by
    unfold Ascending
    decide +kernel
  have hnew : Ascending newAddresses := by
    unfold Ascending
    decide +kernel
  have hchange : ((address 60 1).label,
      ⟨.modified, describeModification oldAddresses newAddresses⟩) ∈
        (Changeset.diff (.group newAddresses) (.group oldAddresses)).changes := by decide +kernel
  have hsides : recordsAt (address 60 1).label oldAddresses = oldAddresses ∧
      recordsAt (address 60 1).label newAddresses = newAddresses := by decide +kernel
  refine ⟨hold, hnew, by decide +kernel, by decide +kernel,
    describeModification_describes.1 _ _ hold hnew, _, hchange, rfl, ?_⟩
  have hdetails := describeModification_describes.2 _ _ _ _ hchange
  rw [hsides.1, hsides.2] at hdetails
  exact hdetails

end DnsReconcile
