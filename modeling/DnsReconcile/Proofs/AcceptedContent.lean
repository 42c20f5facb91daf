import DnsReconcile.Proofs.Layout
import DnsReconcile.Proofs.Numerals

/-!
The content that is accepted, and the data that it is read as.

`Content.Holds` lists the layouts: by type the number of fields, the kind of each, and the
data that they make up. Content is read as exactly the data that it holds
(`Content.read_eq_ok_iff`). A record set is read if every member that is served holds data
of the type, whatever stands in the others; else the error is the one about the first
member that does not (`NativeSet.toRecords_accepts`).
-/

namespace DnsReconcile

open Text

/-- What reads as a natural number: decimal digits, behind a plus sign or none. -/
theorem Text.unsigned?_eq_some_iff {cs : List Char} {n : Nat} :
    unsigned? cs = some n ↔ ∃ sign ds, cs = sign ++ ds ∧ (sign = [] ∨ sign = ['+']) ∧
      ds ≠ [] ∧ (∀ c ∈ ds, c.isDigit = true) ∧ ofDigits ds = n := by
  have hread : ∀ ds : List Char,
      (if ds ≠ [] ∧ ds.all Char.isDigit then some (ofDigits ds) else none) = some n ↔
        ds ≠ [] ∧ (∀ c ∈ ds, c.isDigit = true) ∧ ofDigits ds = n := by
    intro ds
    simp only [List.all_eq_true]
    split
    · rename_i h
      exact ⟨fun heq => ⟨h.1, h.2, Option.some.inj heq⟩, fun heq => congrArg some heq.2.2⟩
    · rename_i h
      exact ⟨nofun, fun heq => absurd ⟨heq.1, heq.2.1⟩ h⟩
  unfold unsigned?
  simp only
  rw [hread]
  constructor
  · split
    · rename_i rest
      exact fun h => ⟨['+'], rest, rfl, .inr rfl, h⟩
    · exact fun h => ⟨[], cs, rfl, .inl rfl, h⟩
  · rintro ⟨sign, ds, rfl, rfl | rfl, hne, hdigits, hvalue⟩
    · -- digits do not start with a sign
      split
      · rename_i rest hplus
        have hdigit := hdigits '+' (by rw [← List.nil_append ds, hplus]; exact List.mem_cons_self)
        exact absurd hdigit (by decide)
      · exact ⟨hne, hdigits, hvalue⟩
    · exact ⟨hne, hdigits, hvalue⟩

namespace Content

/-- The value holds a natural number: as an unsigned integer, or as a text that trims to
decimal digits, with a plus sign in front of them or without one. -/
inductive HoldsNumber : Json → Nat → Prop
  | integer (n : Nat) : HoldsNumber (.number (.int n)) n
  | text {s : String} {sign ds : List Char} (htrim : trim s.toList = sign ++ ds)
      (hsign : sign = [] ∨ sign = ['+']) (hne : ds ≠ [])
      (hdigits : ∀ c ∈ ds, c.isDigit = true) : HoldsNumber (.string s) (ofDigits ds)

/-- The layouts. Content holds record data if it has the fields of the type and each of them
holds its part. -/
inductive Holds : List Json → RecordData → Prop
  | a {s : String} {address : IPv4} (h : IPv4.ofString? (trimmed s) = some address) :
    Holds [.string s] (.a address)
  | aaaa {s : String} {address : IPv6} (h : IPv6.ofString? (trimmed s) = some address) :
    Holds [.string s] (.aaaa address)
  | cname (target : String) : Holds [.string target] (.cname target)
  | ns (target : String) : Holds [.string target] (.ns target)
  | mx {v : Json} {preference : UInt16} (h : HoldsNumber v preference.toNat)
      (exchange : String) : Holds [v, .string exchange] (.mx preference exchange)
  | caa {v : Json} {flags : UInt8} (h : HoldsNumber v flags.toNat) (tag value : String) :
    Holds [v, .string tag, .string value] (.caa flags tag value)
  | srv {v w x : Json} {priority weight port : UInt16} (hv : HoldsNumber v priority.toNat)
      (hw : HoldsNumber w weight.toNat) (hx : HoldsNumber x port.toNat) (target : String) :
    Holds [v, w, x, .string target] (.srv priority weight port target)
  | txt {strings : List String} (h : strings ≠ []) :
    Holds (strings.map .string) (.txt strings)

/-- Content with the layout of a type. -/
def LaidOut (type : RecordType) (content : List Json) : Prop :=
  ∃ d, Holds content d ∧ d.type = type

theorem natural?_eq_some_iff {v : Json} {n : Nat} (hn : n < Nat.pow 2 64) :
    natural? v = some n ↔ HoldsNumber v n := by
  constructor
  · intro h
    unfold natural? at h
    split at h
    · rename_i i
      split at h
      · rename_i hpos
        cases h
        have hi : ((i.toNat : Nat) : Int) = i := Int.toNat_of_nonneg hpos
        have hint := HoldsNumber.integer i.toNat
        rwa [hi] at hint
      · cases h
    · rename_i s
      obtain ⟨sign, ds, htrim, hsign, hne, hdigits, rfl⟩ :=
        unsigned?_eq_some_iff.1 (Option.filter_eq_some_iff.1 h).1
      exact .text htrim hsign hne hdigits
    · cases h
  · intro h
    cases h with
    | integer => simp [natural?]
    | @text s sign ds htrim hsign hne hdigits =>
      refine Option.filter_eq_some_iff.2 ⟨?_, decide_eq_true hn⟩
      exact unsigned?_eq_some_iff.2 ⟨sign, ds, htrim, hsign, hne, hdigits, rfl⟩

theorem text_eq_ok_iff {field : String} {v : Json} {s : String} :
    text field v = .ok s ↔ v = .string s := by
  unfold text
  split
  · rw [Except.ok.injEq, Json.string.injEq]
  · rename_i hother
    exact ⟨nofun, fun h => absurd h (hother s)⟩

theorem address_eq_ok_iff {α : Type} {ofString? : String → Option α} {field : String} {v : Json}
    {a : α} : address ofString? field v = .ok a ↔
      ∃ s, v = .string s ∧ ofString? (trimmed s) = some a := by
  unfold address
  rw [Except.bind_eq_ok_iff]
  refine exists_congr (fun s => and_congr text_eq_ok_iff ?_)
  split <;> simp [*]

private theorem number_eq_ok_iff {bound : Nat} (hbound : bound ≤ Nat.pow 2 64) {field : String}
    {v : Json} {n : Nat} : number bound field v = .ok n ↔ HoldsNumber v n ∧ n < bound := by
  have hrange : n < bound → n < Nat.pow 2 64 := fun h => Nat.lt_of_lt_of_le h hbound
  rw [and_congr_left (fun h => (natural?_eq_some_iff (hrange h)).symm), number]
  cases natural? v with
  | none => simp
  | some m =>
    simp only [Option.some.injEq]
    split
    · rename_i hm
      rw [Except.ok.injEq]
      exact ⟨fun h => ⟨h, h ▸ hm⟩, fun h => h.1⟩
    · rename_i hm
      exact ⟨nofun, fun h => absurd (h.1 ▸ h.2) hm⟩

/-- A number in a type whose values are the numbers below a bound. -/
private theorem bounded_eq_ok_iff {α : Type} {bound : Nat} (hbound : bound ≤ Nat.pow 2 64)
    {ofNat : Nat → α} {toNat : α → Nat} (hless : ∀ a, toNat a < bound)
    (hto : ∀ n < bound, toNat (ofNat n) = n) (hof : ∀ a, ofNat (toNat a) = a)
    {field : String} {v : Json} {a : α} :
    (number bound field v).map ofNat = .ok a ↔ HoldsNumber v (toNat a) := by
  constructor
  · intro h
    cases hread : number bound field v with
    | error fault =>
      rw [hread] at h
      cases h
    | ok n =>
      rw [hread] at h
      cases h
      obtain ⟨hholds, hn⟩ := (number_eq_ok_iff hbound).1 hread
      rwa [hto n hn]
  · intro h
    rw [(number_eq_ok_iff hbound).2 ⟨h, hless a⟩, Except.map, hof]

theorem octet_eq_ok_iff {field : String} {v : Json} {n : UInt8} :
    octet field v = .ok n ↔ HoldsNumber v n.toNat :=
  bounded_eq_ok_iff (by decide) UInt8.toNat_lt (fun _ => UInt8.toNat_ofNat_of_lt)
    (fun _ => UInt8.ofNat_toNat)

theorem word_eq_ok_iff {field : String} {v : Json} {n : UInt16} :
    word field v = .ok n ↔ HoldsNumber v n.toNat :=
  bounded_eq_ok_iff (by decide) UInt16.toNat_lt (fun _ => UInt16.toNat_ofNat_of_lt)
    (fun _ => UInt16.ofNat_toNat)

theorem texts_eq_ok_iff {field : String} {vs : List Json} {ss : List String} :
    texts field vs = .ok ss ↔ vs = ss.map .string := by
  induction vs generalizing ss with
  | nil => cases ss <;> simp [texts]
  | cons v rest ih =>
    simp only [texts, Except.bind_eq_ok_iff, text_eq_ok_iff, ih]
    constructor
    · rintro ⟨s, rfl, others, rfl, h⟩
      cases h
      rfl
    · intro h
      cases ss with
      | nil => cases h
      | cons s others =>
        rw [List.map_cons, List.cons.injEq] at h
        exact ⟨s, h.1, others, h.2, rfl⟩

/-- Content is read as exactly the data of the type that it holds. -/
theorem read_eq_ok_iff {type : RecordType} {content : List Json} {d : RecordData} :
    read type content = .ok d ↔ Holds content d ∧ d.type = type := by
  constructor
  · intro h
    unfold read at h
    split at h
    · obtain ⟨address, haddress, h⟩ := Except.bind_eq_ok_iff.1 h
      cases h
      obtain ⟨s, rfl, hs⟩ := address_eq_ok_iff.1 haddress
      exact ⟨.a hs, rfl⟩
    · obtain ⟨address, haddress, h⟩ := Except.bind_eq_ok_iff.1 h
      cases h
      obtain ⟨s, rfl, hs⟩ := address_eq_ok_iff.1 haddress
      exact ⟨.aaaa hs, rfl⟩
    · obtain ⟨target, htarget, h⟩ := Except.bind_eq_ok_iff.1 h
      cases h
      obtain rfl := text_eq_ok_iff.1 htarget
      exact ⟨.cname target, rfl⟩
    · obtain ⟨target, htarget, h⟩ := Except.bind_eq_ok_iff.1 h
      cases h
      obtain rfl := text_eq_ok_iff.1 htarget
      exact ⟨.ns target, rfl⟩
    · obtain ⟨preference, hpreference, h⟩ := Except.bind_eq_ok_iff.1 h
      obtain ⟨exchange, hexchange, h⟩ := Except.bind_eq_ok_iff.1 h
      cases h
      obtain rfl := text_eq_ok_iff.1 hexchange
      exact ⟨.mx (word_eq_ok_iff.1 hpreference) exchange, rfl⟩
    · obtain ⟨flags, hflags, h⟩ := Except.bind_eq_ok_iff.1 h
      obtain ⟨tag, htag, h⟩ := Except.bind_eq_ok_iff.1 h
      obtain ⟨value, hvalue, h⟩ := Except.bind_eq_ok_iff.1 h
      cases h
      obtain rfl := text_eq_ok_iff.1 htag
      obtain rfl := text_eq_ok_iff.1 hvalue
      exact ⟨.caa (octet_eq_ok_iff.1 hflags) tag value, rfl⟩
    · obtain ⟨priority, hpriority, h⟩ := Except.bind_eq_ok_iff.1 h
      obtain ⟨weight, hweight, h⟩ := Except.bind_eq_ok_iff.1 h
      obtain ⟨port, hport, h⟩ := Except.bind_eq_ok_iff.1 h
      obtain ⟨target, htarget, h⟩ := Except.bind_eq_ok_iff.1 h
      cases h
      obtain rfl := text_eq_ok_iff.1 htarget
      exact ⟨.srv (word_eq_ok_iff.1 hpriority) (word_eq_ok_iff.1 hweight)
        (word_eq_ok_iff.1 hport) target, rfl⟩
    · cases h
    · rename_i hsome
      obtain ⟨strings, hstrings, h⟩ := Except.bind_eq_ok_iff.1 h
      cases h
      obtain rfl := texts_eq_ok_iff.1 hstrings
      refine ⟨.txt ?_, rfl⟩
      rintro rfl
      exact hsome rfl
    -- all others have the wrong number of fields
    all_goals cases h
  · rintro ⟨h, rfl⟩
    cases h with
    | a h => exact Except.bind_eq_ok_iff.2 ⟨_, address_eq_ok_iff.2 ⟨_, rfl, h⟩, rfl⟩
    | aaaa h => exact Except.bind_eq_ok_iff.2 ⟨_, address_eq_ok_iff.2 ⟨_, rfl, h⟩, rfl⟩
    | cname target => rfl
    | ns target => rfl
    | mx h exchange => exact Except.bind_eq_ok_iff.2 ⟨_, word_eq_ok_iff.2 h, rfl⟩
    | caa h tag value => exact Except.bind_eq_ok_iff.2 ⟨_, octet_eq_ok_iff.2 h, rfl⟩
    | srv hv hw hx target =>
      refine Except.bind_eq_ok_iff.2 ⟨_, word_eq_ok_iff.2 hv, ?_⟩
      refine Except.bind_eq_ok_iff.2 ⟨_, word_eq_ok_iff.2 hw, ?_⟩
      exact Except.bind_eq_ok_iff.2 ⟨_, word_eq_ok_iff.2 hx, rfl⟩
    | @txt strings h =>
      obtain ⟨s, others, rfl⟩ := List.exists_cons_of_ne_nil h
      exact Except.bind_eq_ok_iff.2 ⟨_, texts_eq_ok_iff.2 rfl, rfl⟩

end Content

namespace NativeSet

variable {zone name : String} {type : RecordType} {ttl : UInt32} {e : Error}

/-- The record is made of the data that the content of a member holds. -/
def HoldsRecord (zone name : String) (type : RecordType) (ttl : UInt32) (m : NativeRecord)
    (r : Record) : Prop :=
  ∃ d, Content.Holds m.content d ∧ d.type = type ∧ r = .new zone name ttl d

private theorem isRead_iff {m : NativeRecord} {r : Record} :
    IsRead zone name type ttl m r ↔ HoldsRecord zone name type ttl m r := by
  simp only [IsRead, HoldsRecord, Content.read_eq_ok_iff, and_assoc]

private theorem laidOut_iff {content : List Json} :
    Content.LaidOut type content ↔ ∃ d, Content.read type content = .ok d :=
  exists_congr (fun _ => Content.read_eq_ok_iff.symm)

/-- What is not served does not matter. -/
theorem readMembers_enabled (members : List NativeRecord) :
    readMembers zone name type ttl (members.filter (·.enabled)) =
      readMembers zone name type ttl members := by
  induction members with
  | nil => rfl
  | cons m rest ih =>
    cases henabled : m.enabled with
    | false => simp [readMembers, henabled, ih]
    | true => simp [readMembers, henabled, ih]

theorem readMembers_eq_ok_iff {members : List NativeRecord} {rs : List Record} :
    readMembers zone name type ttl members = .ok rs ↔
      List.Forall₂ (IsRead zone name type ttl) (members.filter (·.enabled)) rs := by
  refine ⟨isRead_of_readMembers, fun h => ?_⟩
  rw [← readMembers_enabled]
  have hserved : ∀ m ∈ members.filter (·.enabled), m.enabled = true :=
    fun m hm => (List.mem_filter.1 hm).2
  generalize members.filter (·.enabled) = served at h hserved
  induction h with
  | nil => rfl
  | @cons m r rest others hread _ ih =>
    obtain ⟨hm, hothers⟩ := List.forall_mem_cons.1 hserved
    obtain ⟨d, hd, rfl⟩ := hread
    simp only [readMembers, hm, hd, ih hothers, Bool.not_true, Bool.false_eq_true, if_false]
    rfl

/-- The first member that is served and cannot be read ends the reading. -/
private theorem readMembers_malformed {before : List NativeRecord} {m : NativeRecord}
    (hbefore : ∀ n ∈ before, n.enabled = true → ∃ d, Content.read type n.content = .ok d)
    (hm : IsMalformed name type m e) (after : List NativeRecord) :
    readMembers zone name type ttl (before ++ m :: after) = .error e := by
  induction before with
  | nil =>
    obtain ⟨henabled, fault, hfault, rfl⟩ := hm
    simp [readMembers, henabled, hfault]
  | cons n rest ih =>
    obtain ⟨hn, hrest⟩ := List.forall_mem_cons.1 hbefore
    rw [List.cons_append, readMembers, ih hrest]
    split
    · rfl
    · rename_i henabled
      obtain ⟨d, hd⟩ := hn (by simpa using henabled)
      rw [hd]
      rfl

theorem readMembers_eq_error_iff {members : List NativeRecord} :
    readMembers zone name type ttl members = .error e ↔
      ∃ before m after, members = before ++ m :: after ∧
        (∀ n ∈ before, n.enabled = true → ∃ d, Content.read type n.content = .ok d) ∧
        IsMalformed name type m e := by
  constructor
  · intro h
    induction members with
    | nil => cases h
    | cons m rest ih =>
      -- a member that is passed over stands before the one the error is about
      have hlater : (m.enabled = true → ∃ d, Content.read type m.content = .ok d) →
          readMembers zone name type ttl rest = .error e → ∃ before n after,
            m :: rest = before ++ n :: after ∧
            (∀ n ∈ before, n.enabled = true → ∃ d, Content.read type n.content = .ok d) ∧
            IsMalformed name type n e := by
        intro hm h
        obtain ⟨before, n, after, rfl, hbefore, hn⟩ := ih h
        exact ⟨m :: before, n, after, rfl, List.forall_mem_cons.2 ⟨hm, hbefore⟩, hn⟩
      rw [readMembers] at h
      split at h
      · rename_i hdisabled
        exact hlater (fun henabled => by simp [henabled] at hdisabled) h
      · rename_i henabled
        split at h
        · rename_i fault hfault
          cases h
          exact ⟨[], m, rest, rfl, by simp, by simpa using henabled, fault, hfault, rfl⟩
        · rename_i d hd
          rcases Except.bind_eq_error_iff.1 h with h | ⟨_, _, h⟩
          · exact hlater (fun _ => ⟨d, hd⟩) h
          · cases h
  · rintro ⟨before, m, after, rfl, hbefore, hm⟩
    exact readMembers_malformed hbefore hm after

/-- A record set is read exactly if each member that is served has the layout of the type.
It is read as one record for each of them, in order, with the time to live of the set and
the data of the member in canonical form. Otherwise the error names the label and tells the
fault of the first member that is served and does not have the layout. Members that are not
served do not matter. -/
theorem toRecords_accepts (set : NativeSet) (zone name : String) (type : RecordType) :
    ((∃ rs, set.toRecords zone name type = .ok rs) ↔
      ∀ m ∈ set.records, m.enabled = true → Content.LaidOut type m.content) ∧
    (∀ rs, set.toRecords zone name type = .ok rs ↔
      List.Forall₂ (HoldsRecord zone name type set.ttl) (set.records.filter (·.enabled)) rs) ∧
    (∀ e, set.toRecords zone name type = .error e ↔
      ∃ before m after, set.records = before ++ m :: after ∧
        (∀ n ∈ before, n.enabled = true → Content.LaidOut type n.content) ∧
        ¬ Content.LaidOut type m.content ∧ IsMalformed name type m e) ∧
    set.toRecords zone name type =
      (⟨set.ttl, set.records.filter (·.enabled)⟩ : NativeSet).toRecords zone name type := by
  refine ⟨?_, fun rs => ?_, fun e => ?_, readMembers_enabled set.records |>.symm⟩
  · rw [toRecords, readMembers_ok_iff]
    simp only [laidOut_iff, Content.fits_iff]
  · have hiff : IsRead zone name type set.ttl = HoldsRecord zone name type set.ttl := by
      funext m r
      exact propext isRead_iff
    rw [toRecords, readMembers_eq_ok_iff, hiff]
  · rw [toRecords, readMembers_eq_error_iff]
    simp only [laidOut_iff]
    refine exists_congr (fun before => exists_congr (fun m => exists_congr (fun after => ?_)))
    refine and_congr_right (fun _ => and_congr_right (fun _ => ?_))
    refine ⟨fun hm => ⟨?_, hm⟩, fun h => h.2⟩
    rintro ⟨d, hd⟩
    obtain ⟨-, fault, hfault, -⟩ := hm
    rw [hd] at hfault
    cases hfault

end NativeSet

end DnsReconcile
