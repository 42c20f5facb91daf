import DnsReconcile.Proofs.Fronting
import DnsReconcile.Proofs.Interleaving
import DnsReconcile.Proofs.NameParts
import DnsReconcile.Proofs.Planning

/-!
Writes that do not get into each other's way.

A write to a store looks at its own label and, if it creates a set, at the labels that
cannot stand beside it. So the attempts of two corrections of one zone are independent
unless they share a label or one of them creates a set next to which the other one
creates or removes a type that clashes with it (`Store.independent`). Planned failures
in front of the store do not change that, as the lines of two writes differ with their
labels (`Injected.independent`).
-/

namespace DnsReconcile

namespace Store

/-- Labels that are stored in both of two zones or in neither, as far as they cannot
stand beside `l`, make the same clash. -/
theorem clashing?_congr {m n : Contents} {l : Label}
    (h : ∀ k : Label, k.name = l.name → clash l.type k.type = true →
      (k ∈ m.keys ↔ k ∈ n.keys)) : clashing? m l = clashing? n l := by
  unfold clashing?
  rw [← List.head?_filter, ← List.head?_filter]
  congr 1
  apply (m.ascending_keys.filter _).eq_of_mem_iff (n.ascending_keys.filter _)
  intro k
  rw [List.mem_filter, List.mem_filter]
  apply and_congr_left
  intro hrival
  simp only [Bool.and_eq_true, beq_iff_eq] at hrival
  exact h k hrival.1 hrival.2

end Store

namespace Operation

/-- The operation `q` changes nothing that `o` looks at. -/
structure Ignores (o q : Operation) : Prop where
  label : o.label ≠ q.label
  rival : o.action.kind = .added → q.label.name = o.label.name →
    Store.clash o.label.type q.label.type = true → q.action.kind = .modified

section

variable {o q : Operation} {m n : Contents}

theorem refusal?_congr (hown : o.label ∈ m.keys ↔ o.label ∈ n.keys)
    (hrivals : o.action.kind = .added → ∀ k : Label, k.name = o.label.name →
      Store.clash o.label.type k.type = true → (k ∈ m.keys ↔ k ∈ n.keys)) :
    o.refusal? m = o.refusal? n := by
  unfold refusal?
  cases haction : o.action with
  | create set =>
    rw [Store.clashing?_congr (hrivals (by rw [haction]; rfl))]
    simp only [hown]
  | update set => simp only [hown]
  | delete => simp only [hown]

/-- What an operation is refused for does not change with one that it ignores. -/
theorem refusal?_effect (h : o.Ignores q) (hq : q.Permitted m) :
    o.refusal? (q.effect m) = o.refusal? m := by
  apply refusal?_congr
  · rw [mem_keys_effect, if_neg h.label]
  · intro hadded k hname hclash
    rw [mem_keys_effect]
    split
    · rename_i hk
      subst hk
      have hmodified := h.rival hadded hname hclash
      unfold Permitted at hq
      cases haction : q.action with
      | create set => simp [haction, Action.kind] at hmodified
      | update set =>
        rw [haction] at hq
        exact ⟨fun _ => hq, fun _ => rfl⟩
      | delete => simp [haction, Action.kind] at hmodified
    · rfl

theorem effect_comm (h : o.label ≠ q.label) (m : Contents) :
    o.effect (q.effect m) = q.effect (o.effect m) := by
  apply SortedMap.ext_get?
  intro l
  rw [get?_effect, get?_effect, get?_effect, get?_effect]
  by_cases ho : l = o.label
  · have hq : l ≠ q.label := fun hq => h (ho.symm.trans hq)
    rw [if_pos ho, if_neg hq, if_pos ho]
  · rw [if_neg ho, if_neg ho]

/-- The contents of a zone behind an attempt of the operation. -/
def settled (o : Operation) (m : Contents) : Contents :=
  match o.refusal? m with
  | none => o.effect m
  | some _ => m

theorem refusal?_settled (h : o.Ignores q) (m : Contents) :
    o.refusal? (q.settled m) = o.refusal? m := by
  unfold settled
  cases hq : q.refusal? m with
  | none => exact refusal?_effect h (refusal?_eq_none_iff.1 hq)
  | some e => rfl

theorem settled_comm (h : o.Ignores q) (h' : q.Ignores o) (m : Contents) :
    o.settled (q.settled m) = q.settled (o.settled m) := by
  have ho := refusal?_settled h m
  have hq := refusal?_settled h' m
  rw [settled, ho, settled.eq_1 q (o.settled m), hq, settled, settled]
  cases o.refusal? m with
  | none =>
    cases q.refusal? m with
    | none => exact effect_comm h.label m
    | some e => rfl
  | some e => rfl

end

end Operation

namespace Store

def attempt (nameservers : List String) (c : Correction) : Attempt Store :=
  c.apply (provider nameservers)

theorem setContents_setContents (s : Store) {zone other : String} (m n : Contents)
    (h : Name.ofString zone = Name.ofString other) :
    (s.setContents zone m).setContents other n = s.setContents zone n := by
  unfold setContents
  rw [h]
  congr 1
  apply SortedMap.ext_get?
  intro k
  rw [SortedMap.get?_insert, SortedMap.get?_insert, SortedMap.get?_insert]
  split <;> rfl

theorem setContents_self {s : Store} {zone : String} {m : Contents}
    (h : s.contents? zone = some m) : s.setContents zone m = s := by
  obtain ⟨zones⟩ := s
  unfold setContents
  congr 1
  apply SortedMap.ext_get?
  intro k
  rw [SortedMap.get?_insert]
  split
  · rename_i hk
    rw [hk]
    exact h.symm
  · rfl

section Attempt

variable {nameservers : List String} {s : Store} {c d : Correction} {m : Contents}

theorem attempt_missing (h : s.contents? c.operation.zone = none) :
    attempt nameservers c s = (.error (c.failure (missingZone c.operation.zone)), s) := by
  change ((answer nameservers c.operation.call s).1.mapError c.failure,
    (answer nameservers c.operation.call s).2) = _
  rw [answer_call, perform_missing h]
  rfl

/-- An attempt on a zone that exists, with the zone always written. -/
theorem attempt_of_contents (h : s.contents? c.operation.zone = some m) :
    attempt nameservers c s =
      (match c.operation.refusal? m with
        | some e => .error (c.failure e)
        | none => .ok (),
      s.setContents c.operation.zone (c.operation.settled m)) := by
  have happly := Correction.apply_of_contents nameservers {} h
  change attempt nameservers c s = _ at happly
  rw [happly, Operation.settled]
  cases c.operation.refusal? m with
  | none => rfl
  | some e => rw [setContents_self h]

/-- An attempt behind another one in the same zone meets the contents that this one
left. -/
private theorem attempt_after (nameservers : List String)
    (hzone : Name.ofString c.operation.zone = .ofString d.operation.zone)
    (h : c.operation.Ignores d.operation)
    (hm : s.contents? c.operation.zone = some m) :
    attempt nameservers c ((attempt nameservers d).after s) =
      ((attempt nameservers c s).1, s.setContents c.operation.zone
        (c.operation.settled (d.operation.settled m))) := by
  have hd : s.contents? d.operation.zone = some m := (s.contents?_congr hzone.symm).trans hm
  have hafter : (attempt nameservers d).after s =
      s.setContents c.operation.zone (d.operation.settled m) := by
    rw [Attempt.after, attempt_of_contents hd, setContents, setContents, hzone]
  have hcontents : (s.setContents c.operation.zone (d.operation.settled m)).contents?
      c.operation.zone = some (d.operation.settled m) := by
    rw [contents?_setContents, if_pos rfl]
  rw [hafter, attempt_of_contents hcontents, attempt_of_contents hm,
    Operation.refusal?_settled h, setContents_setContents s _ _ rfl]

/-- Corrections of one zone that ignore each other are independent. -/
theorem independent (hzone : Name.ofString c.operation.zone = .ofString d.operation.zone)
    (h : c.operation.Ignores d.operation) (h' : d.operation.Ignores c.operation) :
    (attempt nameservers c).Independent (attempt nameservers d) := by
  have hmissing : ∀ s : Store, s.contents? c.operation.zone = none →
      (attempt nameservers c).after s = s ∧ (attempt nameservers d).after s = s := by
    intro s hnone
    have hnone' : s.contents? d.operation.zone = none :=
      (s.contents?_congr hzone.symm).trans hnone
    rw [Attempt.after, Attempt.after, attempt_missing hnone, attempt_missing hnone']
    exact ⟨rfl, rfl⟩
  refine ⟨fun s => ?_, fun s => ?_, fun s => ?_⟩
  · cases hm : s.contents? c.operation.zone with
    | none => rw [(hmissing s hm).2]
    | some m => rw [attempt_after nameservers hzone h hm]
  · cases hm : s.contents? c.operation.zone with
    | none => rw [(hmissing s hm).1]
    | some m =>
      rw [attempt_after nameservers hzone.symm h' ((s.contents?_congr hzone.symm).trans hm)]
  · cases hm : s.contents? c.operation.zone with
    | none => rw [(hmissing s hm).2, (hmissing s hm).1, (hmissing s hm).2]
    | some m =>
      have hc := attempt_after nameservers hzone h hm
      have hd := attempt_after nameservers hzone.symm h'
        ((s.contents?_congr hzone.symm).trans hm)
      change (attempt nameservers c ((attempt nameservers d).after s)).2 =
        (attempt nameservers d ((attempt nameservers c).after s)).2
      rw [hc, hd, Operation.settled_comm h h', setContents, setContents, hzone]

end Attempt

end Store

theorem RecordType.space_not_mem_text (t : RecordType) : ' ' ∉ t.text.toList := by
  cases t <;> decide +kernel

theorem RecordType.eq_of_text_eq {s t : RecordType} (h : s.text = t.text) : s = t := by
  cases s <;> cases t <;> first | rfl | exact absurd h (by decide)

/-- The line of a write tells its name and its type. -/
theorem Operation.label_eq_of_text_eq {o q : Operation} (h : o.call.text = q.call.text) :
    o.label = q.label := by
  have hline : ∀ o : Operation, o.call.text.toList =
      o.action.verb.toList ++ (' ' :: o.name.toList ++ ' ' :: o.type.text.toList) := by
    rintro ⟨zone, name, type, action⟩
    cases action <;> simp [call, Call.text, Action.verb, toString]
  have hverb : ∀ o : Operation, o.action.verb.toList.length = 6 := by
    rintro ⟨zone, name, type, action⟩
    cases action <;> simp [Action.verb]
  have hchars : o.call.text.toList = q.call.text.toList := by rw [h]
  rw [hline, hline] at hchars
  have hrest := (List.append_inj hchars ((hverb o).trans (hverb q).symm)).2
  obtain ⟨hname, htype⟩ := append_cons_inj (RecordType.space_not_mem_text o.type)
    (RecordType.space_not_mem_text q.type) hrest
  rw [label, label, String.toList_inj.1 (List.cons.inj hname).2,
    RecordType.eq_of_text_eq (String.toList_inj.1 htype)]

namespace Injected

variable {σ : Type}

/-- The state without the calls so far. -/
def quiet (s : Injected σ) : Injected σ := { s with newestFirst := [] }

def NoCrash (s : Injected σ) : Prop := ∀ f ∈ s.faults, f.fault ≠ .crash

def errorFor? (s : Injected σ) (line : String) : Option Error :=
  match s.faultFor? line with
  | some (.error e) => some e
  | _ => none

def resultOf (p : Provider σ) (c : Correction) (error? : Option Error) (s : σ) :
    Except Error Unit :=
  match error? with
  | some e => .error (c.failure e)
  | none => (c.apply p s).1

/-- The state of the provider behind after an attempt. A planned error leaves it as it
is. -/
def innerAfter (p : Provider σ) (c : Correction) (error? : Option Error) (s : σ) : σ :=
  match error? with
  | some _ => s
  | none => (c.apply p s).2

/-- An attempt on a provider with planned failures, where calls are not recorded. -/
def attempt (p : Provider σ) (c : Correction) : Attempt (Injected σ) := fun s =>
  (resultOf p c (s.errorFor? c.operation.call.text) s.inner,
  { (s.record c.operation.call.text).quiet with
    inner := innerAfter p c (s.errorFor? c.operation.call.text) s.inner })

/-- An attempt of a correction on such a provider. -/
theorem apply_provider (name : String) (capabilities : Capabilities) (p : Provider σ)
    (c : Correction) (s : Injected σ) :
    (c.apply (provider name capabilities p) s).1 = (attempt p c s).1 ∧
      (c.apply (provider name capabilities p) s).2.quiet = (attempt p c s).2 := by
  have hrefs : ∀ (outcome : Except Error Unit) (refs : List SetRef),
      outcome.map (withExtraRefs c.operation.call refs) = outcome := by
    intro outcome refs
    cases outcome <;> rfl
  change ((answer p c.operation.call s).1.mapError c.failure) = _ ∧
    (answer p c.operation.call s).2.quiet = _
  unfold answer attempt resultOf innerAfter errorFor?
  cases hfault : s.faultFor? c.operation.call.text with
  | none =>
    simp only [hrefs]
    exact ⟨rfl, rfl⟩
  | some f =>
    cases f with
    | error e => exact ⟨rfl, rfl⟩
    | crash =>
      simp only [hrefs]
      exact ⟨rfl, rfl⟩

/-- Attempts on such a provider depend on its state up to the record of calls, and no
task dies as long as no crash is planned. -/
theorem makes (name : String) (capabilities : Capabilities) (p : Provider σ) :
    (provider name capabilities p).Makes quiet NoCrash (attempt p) where
  result := fun c s _ => (apply_provider name capabilities p c s).1
  view := fun c s _ => (apply_provider name capabilities p c s).2
  good := by
    intro c s hs f hf
    have hfaults : (c.apply (provider name capabilities p) s).2.faults =
        (s.record c.operation.call.text).faults := by
      change (c.apply (provider name capabilities p) s).2.quiet.faults = _
      rw [(apply_provider name capabilities p c s).2]
      rfl
    rw [hfaults] at hf
    obtain ⟨g, hg, rfl⟩ := List.mem_map.1 hf
    split <;> exact hs g hg
  alive := by
    intro c s hs
    change crash c.operation.call s = none
    unfold crash
    split
    · rename_i hfault
      obtain ⟨g, hg, hcrash⟩ := Option.map_eq_some_iff.1 hfault
      exact absurd hcrash (hs g (List.mem_of_find?_eq_some hg))
    · rfl

section Independent

variable {p : Provider σ} {c d : Correction}

theorem errorFor?_record {line other : String} (h : line ≠ other) (s : Injected σ) :
    (s.record other).errorFor? line = s.errorFor? line := by
  have hfault : (s.record other).faultFor? line = s.faultFor? line := by
    unfold faultFor? record
    rw [List.find?_map, Option.map_map]
    congr 1
    · funext f
      simp only [Function.comp_apply]
      split <;> rfl
    · congr 1
      funext f
      simp only [Function.comp_apply]
      split
      · rename_i hline
        simp [hline, h.symm]
      · rfl
  rw [errorFor?, errorFor?, hfault]

theorem record_comm {line other : String} (h : line ≠ other) (s : Injected σ) :
    ((s.record other).record line).quiet = ((s.record line).record other).quiet := by
  unfold record quiet
  simp only [List.map_map]
  congr 1
  apply List.map_congr_left
  intro f _
  simp only [Function.comp_apply]
  by_cases hline : f.line = line
  · simp [hline, h]
  · by_cases hother : f.line = other <;> simp [hline, hother, h.symm]

private theorem attempt_after (hline : c.operation.call.text ≠ d.operation.call.text)
    (s : Injected σ) :
    attempt p c ((attempt p d).after s) =
      (resultOf p c (s.errorFor? c.operation.call.text)
        (innerAfter p d (s.errorFor? d.operation.call.text) s.inner),
      { ((s.record d.operation.call.text).record c.operation.call.text).quiet with
        inner := innerAfter p c (s.errorFor? c.operation.call.text)
          (innerAfter p d (s.errorFor? d.operation.call.text) s.inner) }) := by
  have herror : ((attempt p d).after s).errorFor? c.operation.call.text =
      s.errorFor? c.operation.call.text := errorFor?_record hline s
  have hunfold : ∀ t : Injected σ, attempt p c t =
      (resultOf p c (t.errorFor? c.operation.call.text) t.inner,
      { (t.record c.operation.call.text).quiet with
        inner := innerAfter p c (t.errorFor? c.operation.call.text) t.inner }) := fun _ => rfl
  rw [hunfold, herror]
  rfl

/-- Planned failures leave independent attempts of different lines independent. -/
theorem independent (hline : c.operation.call.text ≠ d.operation.call.text)
    (h : Attempt.Independent (fun s => c.apply p s) (fun s => d.apply p s)) :
    (attempt p c).Independent (attempt p d) := by
  have hresult : ∀ {c d : Correction} (e f : Option Error),
      Attempt.Independent (fun s => c.apply p s) (fun s => d.apply p s) →
      ∀ s, resultOf p c e (innerAfter p d f s) = resultOf p c e s := by
    intro c d e f hind s
    cases e <;> cases f <;> first | rfl | exact hind.left s
  have hinner : ∀ (e f : Option Error) (s : σ),
      innerAfter p c e (innerAfter p d f s) = innerAfter p d f (innerAfter p c e s) := by
    intro e f s
    cases e <;> cases f <;> first | rfl | exact h.commute s
  refine ⟨fun s => ?_, fun s => ?_, fun s => ?_⟩
  · rw [attempt_after hline, hresult _ _ h]
    rfl
  · rw [attempt_after hline.symm, hresult _ _ h.symm]
    rfl
  · change (attempt p c ((attempt p d).after s)).2 = (attempt p d ((attempt p c).after s)).2
    rw [attempt_after hline, attempt_after hline.symm, record_comm hline, hinner]

end Independent

end Injected

end DnsReconcile
