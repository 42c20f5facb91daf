import Mathlib.Data.Bool.AllAny
import DnsReconcile.Proofs.Containment

/-!
How long the names of an accepted configuration get.

Each text of a configuration is bounded on its own, and so is a name that is one of these
texts. A relative owner is joined with the zone behind it, which nothing bounds: the name
fits into DNS messages only if the two texts and the dot between them do
(`Domain.owner_fits_iff`).
-/

namespace DnsReconcile

open Text

namespace Name

/-- The number of bytes of a name without its final dot. -/
def size (n : Name) : Nat := (withoutFinalDot n.text).utf8ByteSize

theorem size_eq {n : Name} (h : ∀ c ∈ n.text.toList, c.toNat < 128) :
    n.size = n.body.length := by
  rw [size, withoutFinalDot_text]
  apply utf8ByteSize_of_ascii
  rw [toList_text] at h
  exact fun c hc => h c (List.mem_append_left _ hc)

/-- A name is no longer than a text that spells it. -/
theorem length_body_ofString_le (s : String) :
    (ofString s).body.length ≤ s.toList.length := by
  rw [body_ofString, List.length_map]
  exact (dropEndWhile_isPrefix _ _).length_le.trans (trim_isInfix _).length_le

end Name

theorem Plain.length_le {s : String} (h : Plain s.toList) (hsize : s.utf8ByteSize ≤ 253) :
    s.toList.length ≤ 253 := by
  rwa [← utf8ByteSize_of_ascii h.ascii, String.ofList_toList]

namespace Domain

variable {d : Domain} {r : DesiredRecord}

/-- Every text that an accepted domain takes a name from is plain and short. -/
theorem plain_of_validate (h : d.validate = .ok ()) (hr : r ∈ d.records) :
    Plain d.name.toList ∧ d.name.toList.length ≤ 253 ∧
      Plain r.name.toList ∧ r.name.toList.length ≤ 253 := by
  obtain ⟨hzone, -, hrecords⟩ := validate_eq_ok_iff.1 h
  obtain ⟨hzoneSize, hzonePlain⟩ := validateName_eq_ok_iff.1 hzone
  refine ⟨hzonePlain, hzonePlain.length_le hzoneSize, ?_⟩
  rcases (validateRecord_eq_ok_iff.1 (hrecords r hr)).1 with hapex | hname
  · rw [hapex]
    exact ⟨Plain.apexSign, by decide⟩
  · obtain ⟨hsize, hplain⟩ := validateName_eq_ok_iff.1 hname
    exact ⟨hplain, hplain.length_le hsize⟩

private theorem name_toRecord (r : DesiredRecord) (zone : String) :
    (r.toRecord zone).name = .qualify r.name zone :=
  Name.ofString_text _

/-- A relative owner has the length of its text and of the zone, and a dot between them. -/
theorem size_owner_of_isRelative (h : d.validate = .ok ()) (hr : r ∈ d.records)
    (hrelative : IsRelative r.name) :
    (r.toRecord d.name).name.size = (trimmed r.name).utf8ByteSize + 1 + d.zone.size := by
  obtain ⟨hzonePlain, -, hplain, -⟩ := plain_of_validate h hr
  have htrimmed : (trimmed r.name).utf8ByteSize = (trim r.name.toList).length :=
    utf8ByteSize_of_ascii (hplain.of_isInfix (trim_isInfix _)).ascii
  rw [name_toRecord, Name.size_eq (hplain.qualify hzonePlain).ascii, htrimmed,
    Name.body_qualify_of_isRelative hrelative (validate_eq_ok_iff.1 h).2.1, zone,
    Name.size_eq hzonePlain.ofString.ascii, List.length_append, List.length_map, List.length_cons]
  omega

/-- The zone of an accepted domain fits into DNS messages, and its owner names have at most
twice that length and a dot. An owner fits as well unless it is relative, and a relative one
fits exactly if the text and the zone with the dot between them do. -/
theorem owner_fits_iff (h : d.validate = .ok ()) (hr : r ∈ d.records) :
    d.zone.size ≤ 253 ∧ (r.toRecord d.name).name.size ≤ 507 ∧
      ((r.toRecord d.name).name.size ≤ 253 ↔
        (IsRelative r.name → (trimmed r.name).utf8ByteSize + 1 + d.zone.size ≤ 253)) := by
  obtain ⟨hzonePlain, hzoneLength, hplain, hlength⟩ := plain_of_validate h hr
  have hzoneSize : d.zone.size ≤ 253 := by
    rw [zone, Name.size_eq hzonePlain.ofString.ascii]
    exact (Name.length_body_ofString_le d.name).trans hzoneLength
  by_cases hrelative : IsRelative r.name
  · have hsize := size_owner_of_isRelative h hr hrelative
    have htrimmed : (trimmed r.name).utf8ByteSize ≤ 253 := by
      rw [trimmed, utf8ByteSize_of_ascii (hplain.of_isInfix (trim_isInfix _)).ascii]
      exact (trim_isInfix r.name.toList).length_le.trans hlength
    rw [hsize]
    exact ⟨hzoneSize, by omega, fun hle _ => hle, fun hle => hle hrelative⟩
  · have hown : (r.toRecord d.name).name.size ≤ 253 := by
      rw [name_toRecord]
      by_cases hclosed : (trim r.name.toList).getLast? = some '.'
      · rw [Name.qualify_of_closed hclosed, Name.size_eq hplain.ofString.ascii]
        exact (Name.length_body_ofString_le r.name).trans hlength
      · rw [Name.qualify_of_open hrelative hclosed]
        exact hzoneSize
    exact ⟨hzoneSize, by omega, fun _ hr => absurd hr hrelative, fun _ => hown⟩

private def longLabels : List Char := ['.'].intercalate (.replicate 3 (.replicate 63 'a'))

private def longZone : List Char := .replicate 63 'b'

private def longOwner : DesiredRecord where
  name := .ofList longLabels
  data := .a ⟨192, 0, 2, 1⟩

private def longDomain : Domain where
  name := .ofList longZone
  records := [longOwner]

private theorem plain_long : Plain longLabels ∧ Plain longZone :=
  ⟨⟨List.all_iff_forall_prop.1 (by decide +kernel), by decide +kernel⟩,
    List.all_iff_forall_prop.1 (by decide +kernel), by decide +kernel⟩

private theorem isRelative_longOwner : IsRelative longOwner.name := by
  have htoList : longOwner.name.toList = longLabels := String.toList_ofList
  exact ⟨htoList ▸ by decide +kernel, htoList ▸ by decide +kernel, htoList ▸ by decide +kernel⟩

private theorem size_longZone : longDomain.zone.size = 63 := by
  have htoList : longDomain.name.toList = longZone := String.toList_ofList
  rw [zone, Name.size_eq (htoList ▸ plain_long.2).ofString.ascii, Name.body_ofString, htoList]
  decide +kernel

private theorem validateName_ofList {cs : List Char} (h : Plain cs) (hlength : cs.length ≤ 253) :
    validateName (.ofList cs) = .ok () := by
  rw [validateName_eq_ok_iff, utf8ByteSize_of_ascii h.ascii, String.toList_ofList]
  exact ⟨hlength, h⟩

private theorem validate_longDomain : longDomain.validate = .ok () := by
  have hroot : longDomain.zone ≠ .root := by
    intro hroot
    have hsize := size_longZone
    rw [hroot] at hsize
    exact absurd hsize (by decide +kernel)
  refine validate_eq_ok_iff.2 ⟨validateName_ofList plain_long.2 (by decide +kernel), hroot, ?_⟩
  intro r hr
  rw [List.mem_singleton.1 hr, validateRecord_eq_ok_iff]
  refine ⟨.inr (validateName_ofList plain_long.1 (by decide +kernel)), by decide, nofun, ?_⟩
  exact Name.isWithin_qualify isRelative_longOwner.unclosed _

private theorem size_longLabels : (trimmed longOwner.name).utf8ByteSize = 191 := by
  have htoList : longOwner.name.toList = longLabels := String.toList_ofList
  rw [trimmed, htoList,
    utf8ByteSize_of_ascii (plain_long.1.of_isInfix (trim_isInfix longLabels)).ascii]
  decide +kernel

/-- An owner that does not fit, although its text and that of the zone do. -/
theorem owner_fits_iff_long :
    longDomain.validate = .ok () ∧ longOwner ∈ longDomain.records ∧
      longDomain.zone.size ≤ 253 ∧ (longOwner.toRecord longDomain.name).name.size ≤ 507 ∧
      ¬ (longOwner.toRecord longDomain.name).name.size ≤ 253 := by
  have hmem : longOwner ∈ longDomain.records := List.mem_singleton_self _
  obtain ⟨hzone, howner, hfits⟩ := owner_fits_iff validate_longDomain hmem
  refine ⟨validate_longDomain, hmem, hzone, howner, fun hle => ?_⟩
  have hjoined := hfits.1 hle isRelative_longOwner
  rw [size_longLabels, size_longZone] at hjoined
  exact absurd hjoined (by decide)

/-- An accepted domain with an owner of 255 bytes. -/
theorem owner_too_long :
    longDomain.validate = .ok () ∧ ∃ r ∈ longDomain.desiredRecords,
      (withoutFinalDot r.name.text).utf8ByteSize = 255 := by
  have hmem : longOwner ∈ longDomain.records := List.mem_singleton_self _
  have hsize := size_owner_of_isRelative validate_longDomain hmem isRelative_longOwner
  rw [size_longLabels, size_longZone] at hsize
  exact ⟨validate_longDomain, _, List.mem_map_of_mem hmem, hsize⟩

end Domain

end DnsReconcile
