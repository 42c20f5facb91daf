import DnsReconcile.Address.IPv6
import DnsReconcile.Proofs.Numerals

/-!
The text of an address is read back as that address.

For IPv4 the four numbers are read one after the other, each up to the dot that
ends it. For IPv6 the groups in front of a double colon and those behind it are
read in two runs, and the groups that the double colon stands for are the zeros
that were left out. A group is never mistaken for the start of a dotted IPv4
address, as no dot follows its digits.
-/

namespace DnsReconcile

open Text

namespace IPv4

theorem readOctet_append (n : UInt8) {rest : List Char} (h : StopsAt Char.isDigit rest) :
    readOctet (decimal n.toNat ++ rest) = some (n, rest) := by
  have hn : n.toNat < 256 := UInt8.toNat_lt n
  have hdigits : ∀ c ∈ decimal n.toNat, c.isDigit = true := fun c hc => isDigit_of_mem_decimal hc
  have hlength : (decimal n.toNat).length ≤ 3 := length_decimal_le (by decide) (by omega)
  have hzero : ¬ ((decimal n.toNat).head? = some '0' ∧ 1 < (decimal n.toNat).length) := by
    rintro ⟨hhead, hlong⟩
    have hshort : (decimal n.toNat).length = 1 := by rw [eq_zero_of_head?_decimal hhead]; rfl
    omega
  have hfits : ¬ (decimal n.toNat = [] ∨ 3 < (decimal n.toNat).length ∨ 255 < n.toNat ∨
      ((decimal n.toNat).head? = some '0' ∧ 1 < (decimal n.toNat).length)) := by
    rintro (hnil | hlong | hbig | hlead)
    · exact decimal_ne_nil _ hnil
    · omega
    · omega
    · exact hzero hlead
  simp only [readOctet, takeWhile_append_stop hdigits h, dropWhile_append_stop hdigits h,
    ofDigits_decimal, if_neg hfits, UInt8.ofNat_toNat]

theorem readDottedOctet_append (n : UInt8) {rest : List Char} (h : StopsAt Char.isDigit rest) :
    readDottedOctet ('.' :: (decimal n.toNat ++ rest)) = some (n, rest) :=
  readOctet_append n h

private theorem stopsAt_dot (rest : List Char) : StopsAt Char.isDigit ('.' :: rest) := by
  intro c hc
  cases hc
  rfl

theorem read_append (a : IPv4) {rest : List Char} (h : StopsAt Char.isDigit rest) :
    read (a.chars ++ rest) = some (a, rest) := by
  have hchars : a.chars ++ rest = decimal a.first.toNat ++ '.' :: (decimal a.second.toNat ++
      '.' :: (decimal a.third.toNat ++ '.' :: (decimal a.fourth.toNat ++ rest))) := by
    simp [chars]
  unfold read
  rw [hchars, readOctet_append _ (stopsAt_dot _)]
  simp only [Option.bind_eq_bind, Option.bind_some]
  rw [readDottedOctet_append _ (stopsAt_dot _)]
  simp only [Option.bind_some]
  rw [readDottedOctet_append _ (stopsAt_dot _)]
  simp only [Option.bind_some]
  rw [readDottedOctet_append _ h]
  rfl

theorem readOctet_rest (cs : List Char) :
    readOctet cs = none ∨ ∃ n, readOctet cs = some (n, cs.dropWhile Char.isDigit) := by
  simp only [readOctet]
  split
  · exact .inl rfl
  · exact .inr ⟨_, rfl⟩

/-- A text in which no dot follows the first run of digits is no address. -/
theorem read_eq_none {cs : List Char} (h : (cs.dropWhile Char.isDigit).head? ≠ some '.') :
    read cs = none := by
  unfold read
  rcases readOctet_rest cs with hread | ⟨n, hread⟩
  · rw [hread]
    rfl
  · have hdot : readDottedOctet (cs.dropWhile Char.isDigit) = none := by
      unfold readDottedOctet
      split
      · rename_i heq
        rw [heq] at h
        exact absurd rfl h
      · rfl
    rw [hread]
    simp only [Option.bind_eq_bind, Option.bind_some, hdot, Option.bind_none]

theorem isBlank_of_mem_chars {a : IPv4} {c : Char} (h : c ∈ a.chars) : isBlank c = false := by
  simp only [chars, List.append_assoc, List.cons_append, List.mem_append, List.mem_cons] at h
  rcases h with h | rfl | h | rfl | h | rfl | h
  all_goals first | rfl | exact isBlank_of_isDigit (isDigit_of_mem_decimal h)

/-- An address is read back from its text. -/
theorem ofString?_text (a : IPv4) : ofString? a.text = some a := by
  have hstop : StopsAt Char.isDigit [] := by rintro _ ⟨⟩
  have hread := read_append a hstop
  rw [List.append_nil] at hread
  simp [ofString?, text, hread]

theorem trimmed_text (a : IPv4) : trimmed a.text = a.text := by
  simp [trimmed, text, trim_eq_of_no_blank (fun _ hc => isBlank_of_mem_chars hc)]

end IPv4

namespace IPv6

/-- The text ends the group in front of it: it is empty or starts with a colon. -/
def EndsGroup (rest : List Char) : Prop := rest = [] ∨ ∃ more, rest = ':' :: more

theorem EndsGroup.stopsAt {rest : List Char} (h : EndsGroup rest) : StopsAt isHexDigit rest := by
  rintro c hc
  rcases h with rfl | ⟨more, rfl⟩
  · cases hc
  · cases hc
    rfl

theorem readGroup_append (g : UInt16) {rest : List Char} (h : EndsGroup rest) :
    readGroup (hexadecimal g.toNat ++ rest) = some (g, rest) := by
  have hdigits : ∀ c ∈ hexadecimal g.toNat, isHexDigit c = true :=
    fun c hc => isHexDigit_of_mem_hexadecimal hc
  have hlength : (hexadecimal g.toNat).length ≤ 4 :=
    length_hexadecimal_le (by decide) (UInt16.toNat_lt g)
  have hfits : ¬ (hexadecimal g.toNat = [] ∨ 4 < (hexadecimal g.toNat).length) := by
    rintro (hnil | hlong)
    · exact hexadecimal_ne_nil _ hnil
    · omega
  simp only [readGroup, takeWhile_append_stop hdigits h.stopsAt,
    dropWhile_append_stop hdigits h.stopsAt, ofHexDigits_hexadecimal, if_neg hfits,
    UInt16.ofNat_toNat]

private theorem head?_dropWhile_ne_dot {ds rest : List Char} (hds : ∀ c ∈ ds, c ≠ '.')
    (hrest : (rest.dropWhile Char.isDigit).head? ≠ some '.') :
    ((ds ++ rest).dropWhile Char.isDigit).head? ≠ some '.' := by
  induction ds with
  | nil => exact hrest
  | cons d ds ih =>
    rw [List.cons_append, List.dropWhile_cons]
    split
    · exact ih (fun c hc => hds c (List.mem_cons_of_mem _ hc))
    · intro hdot
      exact hds d List.mem_cons_self (Option.some.inj hdot)

/-- The digits of a group do not start a dotted address. -/
theorem read_group_eq_none (g : UInt16) {rest : List Char} (h : EndsGroup rest) :
    IPv4.read (hexadecimal g.toNat ++ rest) = none := by
  apply IPv4.read_eq_none
  apply head?_dropWhile_ne_dot
  · intro c hc hdot
    have hhex := isHexDigit_of_mem_hexadecimal hc
    rw [hdot] at hhex
    exact absurd hhex (by decide)
  · rcases h with rfl | ⟨more, rfl⟩
    · simp
    · simp [show Char.isDigit ':' = false from rfl]

def colonLed (gs : List UInt16) : List Char := gs.flatMap (fun g => ':' :: hexadecimal g.toNat)

theorem colonSeparated_cons (g : UInt16) (gs : List UInt16) :
    colonSeparated (g :: gs) = hexadecimal g.toNat ++ colonLed gs := by
  induction gs generalizing g with
  | nil => simp [colonSeparated, colonLed]
  | cons h rest ih =>
    rw [colonSeparated, ih]
    · simp [colonLed]
    · simp

theorem endsGroup_colonLed (gs : List UInt16) {rest : List Char} (h : EndsGroup rest) :
    EndsGroup (colonLed gs ++ rest) := by
  cases gs with
  | nil => exact h
  | cons g gs => exact .inr ⟨_, rfl⟩

/-- The text ends a run of groups: it is empty or starts with a double colon. -/
def EndsRun (rest : List Char) : Prop := rest = [] ∨ ∃ more, rest = ':' :: ':' :: more

theorem EndsRun.endsGroup {rest : List Char} (h : EndsRun rest) : EndsGroup rest := by
  rcases h with rfl | ⟨more, rfl⟩
  · exact .inl rfl
  · exact .inr ⟨_, rfl⟩

private theorem readGroups_step {limit : Nat} {isFirst : Bool} {cs rest : List Char} (g : UInt16)
    (hcs : afterSeparator isFirst cs = some (hexadecimal g.toNat ++ rest)) (h : EndsGroup rest) :
    readGroups (limit + 1) isFirst cs =
      (g :: (readGroups limit false rest).1, (readGroups limit false rest).2) := by
  have hdotted : (if limit = 0 then none else IPv4.read (hexadecimal g.toNat ++ rest)) = none := by
    split
    · rfl
    · exact read_group_eq_none g h
  rw [readGroups, hcs]
  simp only [hdotted, readGroup_append g h]

private theorem readGroup_colon (rest : List Char) : readGroup (':' :: rest) = none := by
  simp [readGroup, show isHexDigit ':' = false from rfl]

private theorem read_colon (rest : List Char) : IPv4.read (':' :: rest) = none :=
  IPv4.read_eq_none (by simp [show Char.isDigit ':' = false from rfl])

/-- No group is read where a run of groups has ended. -/
theorem readGroups_endsRun (limit : Nat) (isFirst : Bool) {rest : List Char} (h : EndsRun rest) :
    readGroups limit isFirst rest = ([], false, rest) := by
  cases limit with
  | zero => rfl
  | succ limit =>
    rcases h with rfl | ⟨more, rfl⟩
    · cases isFirst
      · rfl
      · simp [readGroups, afterSeparator, readGroup, IPv4.read, IPv4.readOctet]
    · cases isFirst <;>
        simp [readGroups, afterSeparator, readGroup_colon, read_colon]

private theorem readGroups_colonLed (gs : List UInt16) {limit : Nat} (hlimit : gs.length ≤ limit)
    {rest : List Char} (h : EndsRun rest) :
    readGroups limit false (colonLed gs ++ rest) = (gs, false, rest) := by
  induction gs generalizing limit with
  | nil => exact readGroups_endsRun limit false h
  | cons g gs ih =>
    obtain ⟨limit, rfl⟩ : ∃ n, limit = n + 1 := ⟨limit - 1, by
      rw [List.length_cons] at hlimit
      omega⟩
    have hbody : afterSeparator false (colonLed (g :: gs) ++ rest) =
        some (hexadecimal g.toNat ++ (colonLed gs ++ rest)) := by
      simp [colonLed, afterSeparator]
    rw [readGroups_step g hbody (endsGroup_colonLed gs h.endsGroup),
      ih (by simpa using hlimit)]

/-- Groups with colons between them are read back, up to the end of their run. -/
theorem readGroups_colonSeparated (gs : List UInt16) {limit : Nat} (hlimit : gs.length ≤ limit)
    {rest : List Char} (h : EndsRun rest) :
    readGroups limit true (colonSeparated gs ++ rest) = (gs, false, rest) := by
  cases gs with
  | nil => exact readGroups_endsRun limit true h
  | cons g gs =>
    obtain ⟨limit, rfl⟩ : ∃ n, limit = n + 1 := ⟨limit - 1, by
      rw [List.length_cons] at hlimit
      omega⟩
    have hbody : afterSeparator true (colonSeparated (g :: gs) ++ rest) =
        some (hexadecimal g.toNat ++ (colonLed gs ++ rest)) := by
      rw [colonSeparated_cons, List.append_assoc]
      rfl
    rw [readGroups_step g hbody (endsGroup_colonLed gs h.endsGroup),
      readGroups_colonLed gs (by simpa using hlimit) h]

theorem zeroRun_le (gs : List UInt16) (start : Nat) : zeroRun gs start ≤ gs.length - start := by
  rw [zeroRun, ← List.length_drop]
  exact (List.takeWhile_prefix _).length_le

/-- A run of zero groups is what the double colon stands for. -/
theorem take_zeroRun (gs : List UInt16) (start : Nat) :
    (gs.drop start).take (zeroRun gs start) = List.replicate (zeroRun gs start) 0 := by
  have htake : (gs.drop start).take (zeroRun gs start) = (gs.drop start).takeWhile (· == 0) := by
    have hpre := List.prefix_iff_eq_take.1 (List.takeWhile_prefix (· == 0) (l := gs.drop start))
    exact hpre.symm
  rw [htake]
  apply List.eq_replicate_of_mem
  intro g hg
  have hzero := List.mem_takeWhile_imp hg
  exact beq_iff_eq.1 hzero

private theorem regroup (gs : List UInt16) (start : Nat) (hstart : start ≤ gs.length) :
    gs.take start ++
        List.replicate (gs.length - start - (gs.drop (start + zeroRun gs start)).length) 0 ++
        gs.drop (start + zeroRun gs start) = gs := by
  have hrun := zeroRun_le gs start
  have hcount : gs.length - start - (gs.drop (start + zeroRun gs start)).length =
      zeroRun gs start := by
    rw [List.length_drop]
    omega
  rw [hcount, ← take_zeroRun, ← List.drop_drop, List.append_assoc, List.take_append_drop,
    List.take_append_drop]

private theorem readAddress_plain {gs : List UInt16} (h : gs.length = 8) :
    readAddress (colonSeparated gs) = some gs := by
  have hend : EndsRun [] := .inl rfl
  have hread := readGroups_colonSeparated gs h.le hend
  rw [List.append_nil] at hread
  simp [readAddress, hread, h]

private theorem readAddress_compressed {head tail : List UInt16}
    (h : head.length + tail.length < 8) :
    readAddress (colonSeparated head ++ ':' :: ':' :: colonSeparated tail) =
      some (head ++ List.replicate (8 - head.length - tail.length) 0 ++ tail) := by
  have hfirst : head.length ≤ 8 := by omega
  have hgap : EndsRun (':' :: ':' :: colonSeparated tail) := .inr ⟨_, rfl⟩
  have hhead := readGroups_colonSeparated head hfirst hgap
  have hsecond : tail.length ≤ 7 - head.length := by omega
  have hend : EndsRun [] := .inl rfl
  have htail := readGroups_colonSeparated tail hsecond hend
  rw [List.append_nil] at htail
  have hshort : ¬ head.length = 8 := by omega
  simp [readAddress, hhead, htail, hshort]

private theorem or_shiftLeft_split (n : UInt16) :
    (n >>> 8).toUInt8.toUInt16 <<< 8 ||| n.toUInt8.toUInt16 = n := by
  apply UInt16.toNat_inj.1
  have hn := UInt16.toNat_lt n
  have hhigh : (n.toNat >>> 8) % 2 ^ 8 = n.toNat / 256 := by
    rw [Nat.shiftRight_eq_div_pow]
    omega
  have hback : (n.toNat / 256) <<< 8 % 2 ^ 16 = (n.toNat / 256) <<< 8 := by
    rw [Nat.shiftLeft_eq]
    omega
  simp only [UInt16.toNat_or, UInt16.toNat_shiftLeft, UInt8.toNat_toUInt16, UInt16.toNat_toUInt8,
    UInt16.toNat_shiftRight, UInt16.toNat_ofNat]
  change ((n.toNat >>> 8) % 2 ^ 8) <<< 8 % 2 ^ 16 ||| n.toNat % 2 ^ 8 = n.toNat
  rw [hhigh, hback, ← Nat.shiftLeft_add_eq_or_of_lt (by omega : n.toNat % 2 ^ 8 < 2 ^ 8),
    Nat.shiftLeft_eq]
  omega

theorem groupsOfIPv4_embeddedIPv4 (high low : UInt16) :
    groupsOfIPv4 (embeddedIPv4 high low) = [high, low] := by
  simp only [groupsOfIPv4, embeddedIPv4, or_shiftLeft_split]

private theorem readAddress_mapped (high low : UInt16) :
    readAddress (charsOfGroups [0, 0, 0, 0, 0, 0xffff, high, low]) =
      some [0, 0, 0, 0, 0, 0xffff, high, low] := by
  have hstop : StopsAt Char.isDigit [] := by rintro _ ⟨⟩
  have hdotted := IPv4.read_append (embeddedIPv4 high low) hstop
  rw [List.append_nil] at hdotted
  have hlast : readGroups 6 false (':' :: (embeddedIPv4 high low).chars) =
      ([high, low], true, []) := by
    simp [readGroups, afterSeparator, hdotted, groupsOfIPv4_embeddedIPv4]
  have hends : EndsGroup (':' :: (embeddedIPv4 high low).chars) := .inr ⟨_, rfl⟩
  have hbody : afterSeparator true
      ('f' :: 'f' :: 'f' :: 'f' :: ':' :: (embeddedIPv4 high low).chars) =
      some (hexadecimal (0xffff : UInt16).toNat ++ ':' :: (embeddedIPv4 high low).chars) := rfl
  have htail := @readGroups_step 6 true _ _ 0xffff hbody hends
  rw [hlast] at htail
  have hgap : EndsRun
      (':' :: ':' :: 'f' :: 'f' :: 'f' :: 'f' :: ':' :: (embeddedIPv4 high low).chars) :=
    .inr ⟨_, rfl⟩
  have hhead := readGroups_endsRun 8 true hgap
  simp [charsOfGroups, readAddress, hhead, htail, List.replicate]

/-- The groups of an address are read back from its text. -/
theorem readAddress_chars (a : IPv6) : readAddress a.chars = some a.groups := by
  have hlength := a.size_eq
  unfold chars
  by_cases hmapped : ∃ high low, a.groups = [0, 0, 0, 0, 0, 0xffff, high, low]
  · obtain ⟨high, low, hgroups⟩ := hmapped
    rw [hgroups]
    exact readAddress_mapped high low
  · have hplain : charsOfGroups a.groups =
        if 1 < zeroRun a.groups (longestZeroRun a.groups) then
          colonSeparated (a.groups.take (longestZeroRun a.groups)) ++ ':' :: ':' ::
            colonSeparated (a.groups.drop
              (longestZeroRun a.groups + zeroRun a.groups (longestZeroRun a.groups)))
        else colonSeparated a.groups := by
      unfold charsOfGroups
      split
      · rename_i high low hgroups
        exact absurd ⟨high, low, hgroups⟩ hmapped
      · rfl
    rw [hplain]
    split
    · rename_i hrun
      have hbound := zeroRun_le a.groups (longestZeroRun a.groups)
      have hhead : (a.groups.take (longestZeroRun a.groups)).length =
          longestZeroRun a.groups := by
        rw [List.length_take]
        omega
      rw [readAddress_compressed (by rw [hhead, List.length_drop]; omega), hhead]
      have hregroup := regroup a.groups (longestZeroRun a.groups) (by omega)
      rw [hlength] at hregroup
      rw [hregroup]
    · exact readAddress_plain hlength

/-- An address is read back from its text. -/
theorem ofString?_text (a : IPv6) : ofString? a.text = some a := by
  simp [ofString?, text, readAddress_chars, ofGroups?, a.size_eq]

private theorem isBlank_of_mem_colonSeparated {gs : List UInt16} {c : Char}
    (h : c ∈ colonSeparated gs) : isBlank c = false := by
  cases gs with
  | nil => cases h
  | cons g gs =>
    rw [colonSeparated_cons, List.mem_append, colonLed, List.mem_flatMap] at h
    rcases h with h | ⟨k, _, h⟩
    · exact isBlank_of_isHexDigit (isHexDigit_of_mem_hexadecimal h)
    · rcases List.mem_cons.1 h with rfl | h
      · rfl
      · exact isBlank_of_isHexDigit (isHexDigit_of_mem_hexadecimal h)

theorem isBlank_of_mem_chars {a : IPv6} {c : Char} (h : c ∈ a.chars) : isBlank c = false := by
  unfold chars charsOfGroups at h
  split at h
  · rcases List.mem_append.1 h with h | h
    · simp only [List.mem_cons, List.not_mem_nil, or_false] at h
      rcases h with rfl | rfl | rfl | rfl | rfl | rfl | rfl
      all_goals rfl
    · exact IPv4.isBlank_of_mem_chars h
  · simp only at h
    split at h
    · rcases List.mem_append.1 h with h | h
      · exact isBlank_of_mem_colonSeparated h
      · rcases List.mem_cons.1 h with rfl | h
        · rfl
        · rcases List.mem_cons.1 h with rfl | h
          · rfl
          · exact isBlank_of_mem_colonSeparated h
    · exact isBlank_of_mem_colonSeparated h

theorem trimmed_text (a : IPv6) : trimmed a.text = a.text := by
  simp [trimmed, text, trim_eq_of_no_blank (fun _ hc => isBlank_of_mem_chars hc)]

end IPv6

end DnsReconcile
