import Mathlib.Logic.Function.Basic
import DnsReconcile.Proofs.Addresses
import DnsReconcile.Proofs.ChangeLines

/-!
The text of a record tells which record of its label it is.

A number ends at the space behind it (`decimal_append_inj`), and a quoted text ends at the
first quote that no backslash escapes, so what follows it is found again
(`escaped_append_inj`). The tag of a CAA record may hold anything, a space and a quote as
well, but no quoted text holds a quote that is led by a space, so its value starts at the
last of them (`tagged_inj`). Put together, the text of data is that of no other data of its
type (`RecordData.eq_of_text_eq`), and no line shows a record that turns into one with the
same text (`Record.text_identifies`).
-/

namespace DnsReconcile

namespace Text

/-- The digits of a number end at the space behind them. -/
theorem decimal_append_inj {m n : Nat} {rest more : List Char}
    (h : decimal m ++ ' ' :: rest = decimal n ++ ' ' :: more) : m = n ∧ rest = more := by
  have hdigits : ∀ k, ∀ c ∈ decimal k, c.isDigit = true := fun _ _ => isDigit_of_mem_decimal
  have hstops : ∀ cs : List Char, StopsAt Char.isDigit (' ' :: cs) := by
    intro cs c hc
    cases hc
    rfl
  have hnumber := congrArg (List.takeWhile Char.isDigit) h
  have hrest := congrArg (List.dropWhile Char.isDigit) h
  rw [takeWhile_append_stop (hdigits m) (hstops _),
    takeWhile_append_stop (hdigits n) (hstops _)] at hnumber
  rw [dropWhile_append_stop (hdigits m) (hstops _),
    dropWhile_append_stop (hdigits n) (hstops _)] at hrest
  refine ⟨?_, (List.cons.inj hrest).2⟩
  rw [← ofDigits_decimal m, hnumber, ofDigits_decimal]

theorem escaped_cons_eq (c : Char) (cs : List Char) :
    ∃ d ds, escaped (c :: cs) = d :: ds ∧ d ≠ '"' := by
  rw [escaped]
  split
  · exact ⟨_, _, rfl, by decide⟩
  · rename_i hplain
    exact ⟨_, _, rfl, fun hquote => hplain (.inl hquote)⟩

/-- The inside of a quoted text does not start with a quote. -/
theorem escaped_ne_quote (cs rest : List Char) : escaped cs ≠ '"' :: rest := by
  cases cs with
  | nil => nofun
  | cons c cs =>
    obtain ⟨d, ds, hcs, hd⟩ := escaped_cons_eq c cs
    rw [hcs]
    intro h
    exact hd (List.cons.inj h).1

/-- The inside of a quoted text ends at the first quote that is not escaped. -/
theorem escaped_append_inj {xs ys rest more : List Char}
    (h : escaped xs ++ '"' :: rest = escaped ys ++ '"' :: more) : xs = ys ∧ rest = more := by
  induction xs generalizing ys with
  | nil =>
    cases ys with
    | nil => exact ⟨rfl, (List.cons.inj h).2⟩
    | cons y ys =>
      obtain ⟨d, ds, hys, hd⟩ := escaped_cons_eq y ys
      rw [hys] at h
      exact absurd (List.cons.inj h).1.symm hd
  | cons x xs ih =>
    cases ys with
    | nil =>
      obtain ⟨d, ds, hxs, hd⟩ := escaped_cons_eq x xs
      rw [hxs] at h
      exact absurd (List.cons.inj h).1 hd
    | cons y ys =>
      rw [escaped, escaped] at h
      split at h <;> split at h
      · obtain ⟨hxy, h⟩ := List.cons.inj (List.cons.inj h).2
        obtain ⟨rfl, hrest⟩ := ih h
        exact ⟨by rw [hxy], hrest⟩
      · -- a backslash that is not escaped stands for no character
        rename_i hplain
        exact absurd (.inr (List.cons.inj h).1.symm) hplain
      · rename_i hplain _
        exact absurd (.inr (List.cons.inj h).1) hplain
      · obtain ⟨hxy, h⟩ := List.cons.inj h
        obtain ⟨rfl, hrest⟩ := ih h
        exact ⟨by rw [hxy], hrest⟩

/-- In a quoted text no quote is led by a space. -/
theorem escaped_ne_spaced (cs before after : List Char) :
    escaped cs ≠ before ++ ' ' :: '"' :: after := by
  induction cs generalizing before with
  | nil => cases before <;> nofun
  | cons c cs ih =>
    rw [escaped]
    split
    · rename_i hmark
      intro h
      cases before with
      | nil => exact absurd (List.cons.inj h).1 (by decide)
      | cons b before =>
        have hrest := (List.cons.inj h).2
        cases before with
        | nil =>
          rw [(List.cons.inj hrest).1] at hmark
          exact absurd hmark (by decide)
        | cons b' before => exact ih before (List.cons.inj hrest).2
    · intro h
      cases before with
      | nil => exact escaped_ne_quote cs after (List.cons.inj h).2
      | cons b before => exact ih before (List.cons.inj h).2

/-- A quoted text behind a space starts at the last quote that a space leads. -/
theorem tagged_inj {tag tag' cs ds : List Char}
    (h : tag ++ ' ' :: '"' :: (escaped cs ++ ['"']) = tag' ++ ' ' :: '"' :: (escaped ds ++ ['"'])) :
    tag = tag' ∧ cs = ds := by
  -- were the tags of different lengths, the longer one would hold a part of the other value
  have hsame : ∀ {zs cs ds : List Char}, ' ' :: '"' :: (escaped cs ++ ['"']) =
      zs ++ ' ' :: '"' :: (escaped ds ++ ['"']) → zs = [] ∧ cs = ds := by
    intro zs cs ds h
    match zs with
    | [] => exact ⟨rfl, (escaped_append_inj (List.cons.inj (List.cons.inj h).2).2).1⟩
    | [z] => exact absurd (List.cons.inj (List.cons.inj h).2).1 (by decide)
    | z :: z' :: zs =>
      have hinside := (List.cons.inj (List.cons.inj h).2).2
      have hsplit : escaped cs ++ ['"'] = zs ++ ' ' :: '"' :: escaped ds ++ ['"'] := by
        simpa using hinside
      exact absurd (List.append_cancel_right hsplit) (escaped_ne_spaced cs zs (escaped ds))
  rcases List.append_eq_append_iff.1 h with ⟨zs, rfl, hrest⟩ | ⟨zs, rfl, hrest⟩
  · obtain ⟨rfl, hvalue⟩ := hsame hrest
    exact ⟨(List.append_nil tag).symm, hvalue⟩
  · obtain ⟨rfl, hvalue⟩ := hsame hrest
    exact ⟨List.append_nil tag', hvalue.symm⟩

def spaced (ss : List String) : List Char := ss.flatMap (fun s => ' ' :: (quoted s).toList)

theorem spaced_cons (s : String) (ss : List String) :
    spaced (s :: ss) = ' ' :: '"' :: (escaped s.toList ++ '"' :: spaced ss) := by
  simp [spaced, quoted]

theorem spaced_injective : Function.Injective spaced := by
  intro ss ts h
  induction ss generalizing ts with
  | nil =>
    cases ts with
    | nil => rfl
    | cons t ts => simp [spaced] at h
  | cons s ss ih =>
    cases ts with
    | nil => simp [spaced] at h
    | cons t ts =>
      rw [spaced_cons, spaced_cons] at h
      obtain ⟨hfirst, hrest⟩ := escaped_append_inj (List.cons.inj (List.cons.inj h).2).2
      rw [String.toList_inj.1 hfirst, ih hrest]

/-- Quoted texts with spaces between them, behind one more space. -/
theorem spaced_eq {ss : List String} (h : ss ≠ []) :
    spaced ss = ' ' :: (String.intercalate " " (ss.map quoted)).toList := by
  induction ss with
  | nil => exact absurd rfl h
  | cons s ss ih =>
    cases ss with
    | nil => simp [spaced]
    | cons t ts =>
      have hrest := ih (List.cons_ne_nil t ts)
      rw [List.map_cons, List.map_cons, String.intercalate_cons_cons, ← List.map_cons]
      simp only [String.toList_append]
      rw [spaced, List.flatMap_cons, ← spaced, hrest]
      simp

theorem joined_injective :
    Function.Injective (fun ss : List String => String.intercalate " " (ss.map quoted)) := by
  -- one quoted text, be it empty, is told from no text by its quotes
  have hquotes : ∀ s ss, (String.intercalate " " ((s :: ss).map quoted)).toList ≠ [] := by
    intro s ss h
    have hspaced := spaced_eq (List.cons_ne_nil s ss)
    rw [h, spaced_cons] at hspaced
    cases hspaced
  intro ss ts h
  have hchars := congrArg String.toList h
  cases ss with
  | nil =>
    cases ts with
    | nil => rfl
    | cons t ts => exact absurd hchars.symm (hquotes t ts)
  | cons s ss =>
    cases ts with
    | nil => exact absurd hchars (hquotes s ss)
    | cons t ts =>
      apply spaced_injective
      rw [spaced_eq (List.cons_ne_nil s ss), spaced_eq (List.cons_ne_nil t ts)]
      exact congrArg (' ' :: ·) hchars

end Text

namespace IPv4

theorem text_injective : Function.Injective text := by
  have hread : ofString? ∘ text = some := funext ofString?_text
  exact .of_comp (hread ▸ Option.some_injective IPv4)

end IPv4

namespace IPv6

theorem text_injective : Function.Injective text := by
  have hread : ofString? ∘ text = some := funext ofString?_text
  exact .of_comp (hread ▸ Option.some_injective IPv6)

end IPv6

namespace RecordData

open Text

/-- Data is told by its type and its text. -/
theorem eq_of_text_eq {d e : RecordData} (htype : d.type = e.type) (htext : d.text = e.text) :
    d = e := by
  have hchars := congrArg String.toList htext
  cases d <;> cases e <;> cases htype
  case a => rw [IPv4.text_injective htext]
  case aaaa => rw [IPv6.text_injective htext]
  case caa =>
    simp only [text, quoted, toString, String.toList_append, Nat.toList_repr] at hchars
    obtain ⟨hflags, hrest⟩ := decimal_append_inj (by simpa [decimal] using hchars)
    obtain ⟨htag, hvalue⟩ := tagged_inj hrest
    rw [UInt8.toNat_inj.1 hflags, String.toList_inj.1 htag, String.toList_inj.1 hvalue]
  case cname => exact congrArg cname htext
  case mx =>
    simp only [text, toString, String.toList_append, Nat.toList_repr] at hchars
    obtain ⟨hpreference, hexchange⟩ := decimal_append_inj (by simpa [decimal] using hchars)
    rw [UInt16.toNat_inj.1 hpreference, String.toList_inj.1 hexchange]
  case ns => exact congrArg ns htext
  case srv =>
    simp only [text, toString, String.toList_append, Nat.toList_repr] at hchars
    obtain ⟨hpriority, hrest⟩ := decimal_append_inj (by simpa [decimal] using hchars)
    obtain ⟨hweight, hrest⟩ := decimal_append_inj hrest
    obtain ⟨hport, htarget⟩ := decimal_append_inj hrest
    rw [UInt16.toNat_inj.1 hpriority, UInt16.toNat_inj.1 hweight, UInt16.toNat_inj.1 hport,
      String.toList_inj.1 htarget]
  case txt => rw [joined_injective htext]

end RecordData

namespace Record

theorem toList_text (r : Record) :
    r.text.toList = r.name.text.toList ++ ' ' :: (Text.decimal r.ttl.toNat ++
      ' ' :: (r.type.text.toList ++ ' ' :: r.data.text.toList)) := by
  simp [text, toString, Text.decimal]

/-- Within a label of a zone, a record is told by its text. -/
theorem eq_of_text_eq {r s : Record} (hzone : r.zone = s.zone) (hlabel : r.label = s.label)
    (htext : r.text = s.text) : r = s := by
  have hname : r.name = s.name := congrArg Label.name hlabel
  have htype : r.type = s.type := congrArg Label.type hlabel
  have hchars := congrArg String.toList htext
  rw [toList_text, toList_text, hname, htype] at hchars
  obtain ⟨httl, hrest⟩ :=
    Text.decimal_append_inj (List.cons.inj (List.append_cancel_left hchars)).2
  have hdata := (List.cons.inj (List.append_cancel_left hrest)).2
  have hdata := RecordData.eq_of_text_eq htype (String.toList_inj.1 hdata)
  have httl := UInt32.toNat_inj.1 httl
  cases r
  cases s
  cases hzone
  cases hname
  cases httl
  cases hdata
  rfl

end Record

/-- A line that modifies a record tells the two sides of it apart. -/
theorem text_ne_of_modify {olds news : List Record} {old new : Record}
    (hsame : ∀ r ∈ olds, ∀ s ∈ news, r.zone = s.zone ∧ r.label = s.label)
    (hline : .modify old new ∈ describeModification olds news) : old.text ≠ new.text := by
  obtain ⟨hold, hnew⟩ := mem_onlyIn_of_modify hline
  have hin : old ∈ olds := List.mem_of_mem_filter hold
  obtain ⟨hin', hout⟩ : new ∈ news ∧ new ∉ olds := by simpa [onlyIn] using hnew
  obtain ⟨hzone, hlabel⟩ := hsame old hin new hin'
  intro htext
  rw [Record.eq_of_text_eq hzone hlabel htext] at hin
  exact hout hin

/-- Within a label of a zone, a record is told by its text, so that no line shows two
identical sides; and an address is told by its text. -/
theorem Record.text_identifies :
    (∀ r s : Record, r.zone = s.zone → r.label = s.label → r.text = s.text → r = s) ∧
    (∀ (zone : Name) (desired observed : List Record),
      (∀ r ∈ desired ++ observed, r.zone = zone) →
      ∀ l c, (l, c) ∈ (Changeset.diff (.group desired) (.group observed)).changes →
      ∀ old new, .modify old new ∈ c.records → old.text ≠ new.text) ∧
    Function.Injective IPv4.text ∧ Function.Injective IPv6.text := by
  refine ⟨fun r s => eq_of_text_eq, ?_, IPv4.text_injective, IPv6.text_injective⟩
  intro zone desired observed hzone l c hc old new hline
  rw [Changeset.records_of_mem_diff hc] at hline
  refine text_ne_of_modify ?_ hline
  intro r hr s hs
  obtain ⟨hr, hrl⟩ := mem_recordsAt.1 hr
  obtain ⟨hs, hsl⟩ := mem_recordsAt.1 hs
  exact ⟨(hzone r (List.mem_append_right _ hr)).trans (hzone s (List.mem_append_left _ hs)).symm,
    hrl.trans hsl.symm⟩

private def note (data : RecordData) : Record :=
  .new "example.com" "www.example.com" 60 data

/-- The tag of the first record holds what reads like a value, and the strings of the others
hold what reads like two strings, or like none. -/
private def oldNotes : List Record :=
  [note (.caa 0 "issue \"x\"" "y"), note (.txt ["x", "y"]), note (.txt [])]

private def newNotes : List Record :=
  [note (.caa 0 "issue" "x\" \"y"), note (.txt ["x\" \"y"]), note (.txt [""])]

theorem Record.text_identifies_quotes :
    (Changeset.diff (.group newNotes) (.group oldNotes)).changes.map (·.2.details) =
      [["MODIFY www.example.com. 60 CAA 0 issue \"x\" \"y\" -> " ++
          "www.example.com. 60 CAA 0 issue \"x\\\" \\\"y\""],
        ["MODIFY www.example.com. 60 TXT  -> www.example.com. 60 TXT \"\"",
          "MODIFY www.example.com. 60 TXT \"x\" \"y\" -> " ++
            "www.example.com. 60 TXT \"x\\\" \\\"y\""]] ∧
    (∀ l c, (l, c) ∈ (Changeset.diff (.group newNotes) (.group oldNotes)).changes →
      ∀ old new, .modify old new ∈ c.records → old.text ≠ new.text) ∧
    ∀ r ∈ oldNotes, ∀ s ∈ newNotes, r.label = s.label → r.text = s.text → r = s := by
  have hzone : ∀ r ∈ oldNotes ++ newNotes, r.zone = .ofString "example.com" := by decide +kernel
  refine ⟨by decide +kernel, ?_, fun r hr s hs => text_identifies.1 r s ?_⟩
  · refine text_identifies.2.1 (.ofString "example.com") _ _ (fun r hr => hzone r ?_)
    exact List.mem_append.2 (List.mem_append.1 hr).symm
  · exact (hzone r (List.mem_append_left _ hr)).trans (hzone s (List.mem_append_right _ hs)).symm

end DnsReconcile
