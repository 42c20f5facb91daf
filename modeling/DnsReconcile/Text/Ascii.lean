import DnsReconcile.Text.Blank

/-!
Letter case, for ASCII alone. Letters outside ASCII have no case here, so two
texts that differ in them are different whatever their case is elsewhere.
-/

namespace DnsReconcile.Text

def lower (s : String) : String :=
  String.ofList (s.toList.map Char.toLower)

def sameIgnoringCase (a b : String) : Bool :=
  lower a == lower b

/-- Capitals move 32 places up and nothing else moves. -/
theorem toNat_toLower (c : Char) :
    c.toLower.toNat = if 65 ≤ c.toNat ∧ c.toNat ≤ 90 then c.toNat + 32 else c.toNat := by
  have hA : ('A'.val ≤ c.val) ↔ 65 ≤ c.toNat := by
    rw [UInt32.le_iff_toNat_le]; rfl
  have hZ : (c.val ≤ 'Z'.val) ↔ c.toNat ≤ 90 := by
    rw [UInt32.le_iff_toNat_le]; rfl
  unfold Char.toLower
  by_cases h : c.val ≥ 'A'.val ∧ c.val ≤ 'Z'.val
  · have hn : 65 ≤ c.toNat ∧ c.toNat ≤ 90 := ⟨hA.1 h.1, hZ.1 h.2⟩
    rw [dif_pos h, if_pos hn]
    change (c.val + ('a'.val - 'A'.val)).toNat = _
    rw [UInt32.toNat_add]
    have : ('a'.val - 'A'.val).toNat = 32 := rfl
    rw [this]
    change (c.toNat + 32) % 2 ^ 32 = _
    omega
  · have hn : ¬ (65 ≤ c.toNat ∧ c.toNat ≤ 90) := fun hn => h ⟨hA.2 hn.1, hZ.2 hn.2⟩
    rw [dif_neg h, if_neg hn]

theorem toLower_toLower (c : Char) : c.toLower.toLower = c.toLower := by
  apply Char.toNat_inj.1
  have h := toNat_toLower c
  rw [toNat_toLower c.toLower]
  split at h <;> split <;> omega

/-- Changing case makes no dot and takes none away. -/
theorem toLower_eq_dot (c : Char) : (c.toLower == '.') = (c == '.') := by
  have h : c.toLower = '.' ↔ c = '.' := by
    rw [← Char.toNat_inj, ← Char.toNat_inj, toNat_toLower]
    have : '.'.toNat = 46 := rfl
    rw [this]
    split <;> omega
  rw [Bool.eq_iff_iff, beq_iff_eq, beq_iff_eq]
  exact h

/-- Changing case makes no white space and takes none away. -/
theorem isBlank_toLower (c : Char) : isBlank c.toLower = isBlank c := by
  unfold isBlank
  rw [toNat_toLower]
  split
  · rename_i h
    rw [Bool.eq_iff_iff]
    simp only [Bool.or_eq_true, Bool.and_eq_true, decide_eq_true_eq, beq_iff_eq]
    omega
  · rfl

theorem map_toLower_map_toLower (cs : List Char) :
    (cs.map Char.toLower).map Char.toLower = cs.map Char.toLower := by
  rw [List.map_map]
  exact List.map_congr_left (fun c _ => toLower_toLower c)

theorem lower_lower (s : String) : lower (lower s) = lower s := by
  rw [lower, lower, String.toList_ofList, map_toLower_map_toLower]

end DnsReconcile.Text
