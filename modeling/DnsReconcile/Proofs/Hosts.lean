import Mathlib.Data.List.Basic
import DnsReconcile.RecordData

/-!
Host names without their final dot.

A host name in canonical form is written without its final dot and brought into
canonical form again when it is read. This gives the name back unless the dot
hides white space: what stands at the end of a text is trimmed
(`fqdn_withoutFinalDot_iff`).
-/

namespace DnsReconcile

open Text

/-- Whether a character of white space stands directly before the final dot. -/
def blankBeforeDot (s : String) : Bool :=
  match s.toList.reverse with
  | '.' :: c :: _ => isBlank c
  | _ => false

private theorem length_dropEndWhile_le {α : Type} (p : α → Bool) (xs : List α) :
    (dropEndWhile p xs).length ≤ xs.length :=
  (dropEndWhile_isPrefix p xs).length_le

private theorem length_canonicalChars_le (cs : List Char) :
    (canonicalChars cs).length ≤ (trim cs).length + 1 := by
  have hbody := length_dropEndWhile_le (· == '.') (trim cs)
  unfold canonicalChars
  split
  · simp
  · rename_i body _
    simp only [List.length_append, List.length_map, List.length_singleton]
    omega

/-- White space at the end of a body is lost when the body is read as a text of its own. -/
theorem length_canonicalChars_of_blank {body : List Char} (h : IsNameBody body) {c : Char}
    (hc : c ∈ body.getLast?) (hblank : isBlank c = true) :
    (canonicalChars body).length ≤ body.length := by
  rcases List.eq_nil_or_concat' body with rfl | ⟨front, last, rfl⟩
  · cases hc
  · rw [List.getLast?_concat] at hc
    cases hc
    have htrim : (trim (front ++ [c])).length ≤ front.length := by
      rw [trim, h.start, dropEndWhile_concat_of_pos hblank]
      exact length_dropEndWhile_le _ _
    have hlength := length_canonicalChars_le (front ++ [c])
    rw [List.length_append, List.length_singleton]
    omega

/-- A body without its dot is trimmed as a text of its own, so it is read as
the same name only if it does not end in white space. -/
theorem canonicalChars_body_iff {body : List Char} (h : IsNameBody body) :
    canonicalChars body = body ++ ['.'] ↔ ∀ c ∈ body.getLast?, isBlank c = false := by
  rcases List.eq_nil_or_concat' body with rfl | ⟨front, last, rfl⟩
  · exact ⟨by rintro _ _ ⟨⟩, fun _ => rfl⟩
  · constructor
    · intro hsame c hc
      rw [Bool.eq_false_iff]
      intro hblank
      have hlength := length_canonicalChars_of_blank h hc hblank
      rw [hsame, List.length_append, List.length_singleton] at hlength
      omega
    · rw [List.getLast?_concat]
      intro hlast
      have htrim : trim (front ++ [last]) = front ++ [last] :=
        trim_eq_self h.start (dropEndWhile_concat_of_neg (hlast last rfl) front)
      have hne : front ++ [last] ≠ [] := by simp
      unfold canonicalChars
      rw [htrim, h.dots]
      split
      · contradiction
      · rw [h.low]

theorem withoutFinalDot_closed (body : List Char) :
    withoutFinalDot (String.ofList (body ++ ['.'])) = String.ofList body := by
  simp [withoutFinalDot]

theorem blankBeforeDot_closed (body : List Char) :
    blankBeforeDot (String.ofList (body ++ ['.'])) = false ↔
      ∀ c ∈ body.getLast?, isBlank c = false := by
  rcases List.eq_nil_or_concat' body with rfl | ⟨front, last, rfl⟩
  · simp [blankBeforeDot]
  · simp [blankBeforeDot]

/-- A canonical name comes back from its text without the final dot exactly if
no white space stands before that dot. -/
theorem fqdn_withoutFinalDot_iff {name : String} (h : fqdn name = name) :
    fqdn (withoutFinalDot name) = name ↔ blankBeforeDot name = false := by
  obtain ⟨body, hbody, hchars⟩ := exists_nameBody name.toList
  have hname : name = String.ofList (body ++ ['.']) := by
    rw [← hchars]
    exact h.symm
  rw [hname, withoutFinalDot_closed, blankBeforeDot_closed, ← canonicalChars_body_iff hbody]
  rw [fqdn, String.toList_ofList, String.ofList_inj]

namespace RecordData

def host? : RecordData → Option String
  | cname target => some target
  | mx _ exchange => some exchange
  | ns target => some target
  | srv _ _ _ target => some target
  | _ => none

/-- No white space stands directly before the final dot of the host name in the
data. -/
def NoBlankBeforeDot (d : RecordData) : Prop := ∀ host ∈ d.host?, blankBeforeDot host = false

instance (d : RecordData) : Decidable d.NoBlankBeforeDot :=
  inferInstanceAs (Decidable (∀ host ∈ d.host?, blankBeforeDot host = false))

theorem fqdn_of_mem_host? {d : RecordData} (h : d.canonical = d) {host : String}
    (hhost : host ∈ d.host?) : fqdn host = host := by
  cases d <;> cases hhost <;> injection h

end RecordData

end DnsReconcile
