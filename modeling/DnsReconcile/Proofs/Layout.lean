import DnsReconcile.Proofs.Observed

/-!
Which content is read, and what of a zone.

The layouts of content are told type by type (`Content.Fits`), and content is read exactly
if it has the layout of its type (`Content.fits_iff`). Of a record set, each member that is
served is read as one record, in order (`NativeSet.isRead_of_readMembers`), and an error
names one that cannot be read (`NativeSet.exists_malformed_of_readMembers`). A zone is read
set by set, in the order of its entries (`Contents.toRecords_of_records`).
-/

namespace DnsReconcile

namespace Content

def IsNumber (bound : Nat) (v : Json) : Prop := ∃ n, natural? v = some n ∧ n < bound

/-- The value is the text of an address, with white space around it. -/
def IsAddress {α : Type} (ofString? : String → Option α) (v : Json) : Prop :=
  ∃ raw a, v = .string raw ∧ ofString? (Text.trimmed raw) = some a

def IsText (v : Json) : Prop := ∃ s, v = .string s

def Fits : RecordType → List Json → Prop
  | .a, [v] => IsAddress IPv4.ofString? v
  | .aaaa, [v] => IsAddress IPv6.ofString? v
  | .cname, [target] => IsText target
  | .ns, [target] => IsText target
  | .mx, [preference, exchange] => IsNumber UInt16.size preference ∧ IsText exchange
  | .caa, [flags, tag, value] => IsNumber UInt8.size flags ∧ IsText tag ∧ IsText value
  | .srv, [priority, weight, port, target] =>
    IsNumber UInt16.size priority ∧ IsNumber UInt16.size weight ∧ IsNumber UInt16.size port ∧
      IsText target
  | .txt, strings => strings ≠ [] ∧ ∀ v ∈ strings, IsText v
  | _, _ => False

theorem isText_iff (field : String) {v : Json} : IsText v ↔ ∃ s, text field v = .ok s := by
  constructor
  · rintro ⟨s, rfl⟩
    exact ⟨s, rfl⟩
  · rintro ⟨s, h⟩
    unfold text at h
    split at h
    · exact ⟨_, rfl⟩
    · cases h

theorem isAddress_iff {α : Type} {ofString? : String → Option α} (field : String) {v : Json} :
    IsAddress ofString? v ↔ ∃ a, address ofString? field v = .ok a := by
  constructor
  · rintro ⟨raw, a, rfl, ha⟩
    refine ⟨a, ?_⟩
    simp [address, text, ha, bind, Except.bind]
  · rintro ⟨a, h⟩
    obtain ⟨raw, hraw, hread⟩ := Except.bind_eq_ok_iff.1 h
    obtain ⟨s, rfl⟩ := (isText_iff _).2 ⟨raw, hraw⟩
    cases hraw
    split at hread
    · exact ⟨_, _, rfl, ‹_›⟩
    · cases hread

theorem isNumber_iff {bound : Nat} (field : String) {v : Json} :
    IsNumber bound v ↔ ∃ n, number bound field v = .ok n := by
  unfold IsNumber number
  cases natural? v with
  | none => simp
  | some n =>
    simp only [Option.some.injEq, exists_eq_left']
    split <;> simp [*]

theorem isNumber_iff_octet (field : String) {v : Json} :
    IsNumber UInt8.size v ↔ ∃ n, octet field v = .ok n := by
  rw [isNumber_iff field, octet]
  cases number UInt8.size field v <;> simp [Except.map]

theorem isNumber_iff_word (field : String) {v : Json} :
    IsNumber UInt16.size v ↔ ∃ n, word field v = .ok n := by
  rw [isNumber_iff field, word]
  cases number UInt16.size field v <;> simp [Except.map]

theorem texts_iff (field : String) {vs : List Json} :
    (∀ v ∈ vs, IsText v) ↔ ∃ ss, texts field vs = .ok ss := by
  induction vs with
  | nil => simp [texts]
  | cons v rest ih =>
    rw [List.forall_mem_cons, ih, isText_iff field]
    simp only [texts, Except.bind_eq_ok_iff]
    constructor
    · rintro ⟨⟨s, hs⟩, ss, hss⟩
      exact ⟨s :: ss, s, hs, ss, hss, rfl⟩
    · rintro ⟨_, s, hs, ss, hss, -⟩
      exact ⟨⟨s, hs⟩, ss, hss⟩

section Fields

variable {α β : Type} {x : Except ContentFault α} {P Q : Prop}

/-- The last field of a layout. -/
private theorem last_iff (hx : P ↔ ∃ a, x = .ok a) (f : α → β) :
    P ↔ ∃ b, (x >>= fun a => pure (f a)) = .ok b := by
  rw [hx]
  cases x <;> simp [bind, Except.bind, pure, Except.pure]

/-- A field of a layout with others behind it. -/
private theorem field_iff {f : α → Except ContentFault β} (hx : P ↔ ∃ a, x = .ok a)
    (hf : ∀ a, Q ↔ ∃ b, f a = .ok b) : P ∧ Q ↔ ∃ b, x >>= f = .ok b := by
  simp only [Except.bind_eq_ok_iff]
  constructor
  · rintro ⟨hp, hq⟩
    obtain ⟨a, ha⟩ := hx.1 hp
    obtain ⟨b, hb⟩ := (hf a).1 hq
    exact ⟨b, a, ha, hb⟩
  · rintro ⟨b, a, ha, hb⟩
    exact ⟨hx.2 ⟨a, ha⟩, (hf a).2 ⟨b, hb⟩⟩

end Fields

/-- Content is read exactly if it has the layout of its type. -/
theorem fits_iff {type : RecordType} {content : List Json} :
    Fits type content ↔ ∃ d, read type content = .ok d := by
  unfold read
  split
  · exact last_iff (isAddress_iff _) _
  · exact last_iff (isAddress_iff _) _
  · exact last_iff (isText_iff _) _
  · exact last_iff (isText_iff _) _
  · exact field_iff (isNumber_iff_word _) (fun _ => last_iff (isText_iff _) _)
  · exact field_iff (isNumber_iff_octet _) (fun _ =>
      field_iff (isText_iff _) (fun _ => last_iff (isText_iff _) _))
  · exact field_iff (isNumber_iff_word _) (fun _ => field_iff (isNumber_iff_word _) (fun _ =>
      field_iff (isNumber_iff_word _) (fun _ => last_iff (isText_iff _) _)))
  · simp [Fits]
  · rename_i hsome
    exact (and_iff_right hsome).trans (last_iff (texts_iff _) _)
  -- all others have the wrong number of fields
  all_goals
    refine iff_of_false (fun h => ?_) nofun
    unfold Fits at h
    split at h <;> grind

end Content

namespace NativeSet

variable {zone name : String} {type : RecordType} {ttl : UInt32} {e : Error}

/-- The record is what is read from the member of a set. -/
def IsRead (zone name : String) (type : RecordType) (ttl : UInt32) (m : NativeRecord)
    (r : Record) : Prop :=
  ∃ d, Content.read type m.content = .ok d ∧ r = .new zone name ttl d

/-- The member is served and cannot be read, which the error tells. -/
def IsMalformed (name : String) (type : RecordType) (m : NativeRecord) (e : Error) : Prop :=
  m.enabled = true ∧ ∃ fault, Content.read type m.content = .error fault ∧
    e = .parse s!"{(Label.new name type).text}: {fault.message}"

/-- A set is read exactly if every member that is served has the layout of the type. -/
theorem readMembers_ok_iff {members : List NativeRecord} :
    (∃ rs, readMembers zone name type ttl members = .ok rs) ↔
      ∀ m ∈ members, m.enabled = true → Content.Fits type m.content := by
  induction members with
  | nil => simp [readMembers]
  | cons m rest ih =>
    rw [List.forall_mem_cons, ← ih, Content.fits_iff, readMembers]
    cases m.enabled with
    | false => simp
    | true =>
      cases Content.read type m.content with
      | error fault => simp
      | ok d => simp [Except.bind_eq_ok_iff, pure, Except.pure]

/-- Each member that is served is read as one record, in order. -/
theorem isRead_of_readMembers {members : List NativeRecord} {rs : List Record}
    (h : readMembers zone name type ttl members = .ok rs) :
    List.Forall₂ (IsRead zone name type ttl) (members.filter (·.enabled)) rs := by
  induction members generalizing rs with
  | nil =>
    cases h
    exact .nil
  | cons m rest ih =>
    rw [readMembers] at h
    split at h
    · rename_i hdisabled
      rw [List.filter_cons_of_neg (by simpa using hdisabled)]
      exact ih h
    · rename_i henabled
      rw [List.filter_cons_of_pos (by simpa using henabled)]
      split at h
      · cases h
      · rename_i d hd
        obtain ⟨others, hothers, h⟩ := Except.bind_eq_ok_iff.1 h
        cases h
        exact .cons ⟨d, hd, rfl⟩ (ih hothers)

theorem exists_malformed_of_readMembers {members : List NativeRecord}
    (h : readMembers zone name type ttl members = .error e) :
    ∃ m ∈ members, IsMalformed name type m e := by
  induction members with
  | nil => cases h
  | cons m rest ih =>
    have hlater : readMembers zone name type ttl rest = .error e →
        ∃ n ∈ m :: rest, IsMalformed name type n e := by
      intro h
      obtain ⟨n, hn, hmalformed⟩ := ih h
      exact ⟨n, List.mem_cons_of_mem _ hn, hmalformed⟩
    rw [readMembers] at h
    split at h
    · exact hlater h
    · rename_i henabled
      split at h
      · rename_i fault hfault
        cases h
        exact ⟨m, List.mem_cons_self, by simpa using henabled, fault, hfault, rfl⟩
      · rcases Except.bind_eq_error_iff.1 h with h | ⟨_, _, h⟩
        · exact hlater h
        · cases h

end NativeSet

namespace Contents

variable {zone : String} {entries : List (Label × NativeSet)} {e : Error}

/-- A zone is read set by set. -/
theorem toRecords_of_records {rs : List Record} (h : records zone entries = .ok rs) :
    ∃ parts, rs = parts.flatten ∧ List.Forall₂ (fun (f : Label × NativeSet) part =>
      f.2.toRecords zone f.1.name.text f.1.type = .ok part) entries parts := by
  induction entries generalizing rs with
  | nil =>
    cases h
    exact ⟨[], rfl, .nil⟩
  | cons f rest ih =>
    obtain ⟨own, hown, h⟩ := Except.bind_eq_ok_iff.1 h
    obtain ⟨others, hothers, h⟩ := Except.bind_eq_ok_iff.1 h
    cases h
    obtain ⟨parts, rfl, hparts⟩ := ih hothers
    exact ⟨own :: parts, rfl, .cons hown hparts⟩

theorem exists_of_records_error (h : records zone entries = .error e) :
    ∃ f ∈ entries, f.2.toRecords zone f.1.name.text f.1.type = .error e := by
  induction entries with
  | nil => cases h
  | cons f rest ih =>
    rcases Except.bind_eq_error_iff.1 h with hown | ⟨own, -, h⟩
    · exact ⟨f, List.mem_cons_self, hown⟩
    · rcases Except.bind_eq_error_iff.1 h with hothers | ⟨_, _, h⟩
      · obtain ⟨g, hg, hgerror⟩ := ih hothers
        exact ⟨g, List.mem_cons_of_mem _ hg, hgerror⟩
      · cases h

end Contents

end DnsReconcile
