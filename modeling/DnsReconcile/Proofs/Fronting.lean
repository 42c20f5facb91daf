import DnsReconcile.Proofs.StoreWrites
import DnsReconcile.Provider.FaultInjection

/-!
Providers in front of a store.

Such a provider answers calls that read from its store, and a call that writes
either reaches the store or fails and leaves it alone. Which writes fail may
depend on everything that happened before, so this covers every set of failures.
The store itself is one of them (`Store.fronts`), and planned failures of writes
in front of one make another (`Injected.fronts`).
-/

namespace DnsReconcile

variable {σ : Type}

def Call.isRead {α : Type} : Call α → Bool
  | .zoneExists _ | .list _ | .get .. | .nameservers _ => true
  | .createZone _ | .create .. | .update .. | .delete .. => false

theorem Operation.isRead_call (o : Operation) : o.call.isRead = false := by
  unfold Operation.call
  cases o.action <;> rfl

/-- In its good states, which no read leaves, the provider answers calls that read from
the store that `view` shows. -/
structure Provider.Shows (p : Provider σ) (nameservers : List String) (view : σ → Store)
    (Good : σ → Prop) : Prop where
  read : ∀ {α : Type} (c : Call α) (s : σ), Good s → c.isRead = true →
    (p.answer c s).1 = (Store.answer nameservers c (view s)).1 ∧ view (p.answer c s).2 = view s
  good : ∀ {α : Type} (c : Call α) (s : σ), Good s → c.isRead = true → Good (p.answer c s).2

/-- In its good states, which it never leaves, the provider answers calls from
the store that `view` shows: it reads faithfully, and a write that it fails does
not reach the store. No task dies on a call. -/
structure Provider.Fronts (p : Provider σ) (nameservers : List String) (view : σ → Store)
    (Good : σ → Prop) : Prop where
  read : ∀ {α : Type} (c : Call α) (s : σ), Good s → c.isRead = true →
    (p.answer c s).1 = (Store.answer nameservers c (view s)).1 ∧ view (p.answer c s).2 = view s
  write : ∀ {α : Type} (c : Call α) (s : σ), Good s → c.isRead = false →
    ((∃ e, (p.answer c s).1 = .error e) ∧ view (p.answer c s).2 = view s) ∨
      ((p.answer c s).1, view (p.answer c s).2) = Store.answer nameservers c (view s)
  good : ∀ {α : Type} (c : Call α) (s : σ), Good s → Good (p.answer c s).2
  alive : ∀ {α : Type} (c : Call α) (s : σ), Good s → p.crash c s = none

theorem Provider.Fronts.shows {p : Provider σ} {nameservers : List String} {view : σ → Store}
    {Good : σ → Prop} (h : p.Fronts nameservers view Good) : p.Shows nameservers view Good :=
  ⟨h.read, fun c s hs _ => h.good c s hs⟩

/-- A read leaves the store as it is. -/
theorem Store.answer_read (nameservers : List String) {α : Type} {c : Call α}
    (h : c.isRead = true) (s : Store) : (answer nameservers c s).2 = s := by
  cases c <;> first | rfl | cases h

/-- The store itself, whatever types it is said to host, in states that its
answers keep good. -/
theorem Store.fronts (nameservers : List String) (capabilities : Capabilities)
    {Good : Store → Prop}
    (hgood : ∀ {α : Type} (c : Call α) (s : Store), Good s → Good (answer nameservers c s).2) :
    { provider nameservers with capabilities }.Fronts nameservers id Good where
  read := fun _ s _ h => ⟨rfl, answer_read nameservers h s⟩
  write := fun _ _ _ _ => .inr rfl
  good := hgood
  alive := fun _ _ _ => rfl

/-- What is left of a correction that was tried: either it failed and the store
is as it was, or it succeeded and the store holds its effect. -/
theorem Provider.Fronts.apply {p : Provider σ} {nameservers : List String} {view : σ → Store}
    {Good : σ → Prop} (h : p.Fronts nameservers view Good) {s : σ} (hs : Good s)
    (c : Correction) :
    ((∃ e, (c.apply p s).1 = .error e) ∧ view (c.apply p s).2 = view s) ∨
      ((c.apply p s).1 = .ok () ∧
        (view s).perform c.operation = .ok (view (c.apply p s).2)) := by
  have hfirst : (c.apply p s).1 = (p.answer c.operation.call s).1.mapError c.failure := rfl
  have hsecond : (c.apply p s).2 = (p.answer c.operation.call s).2 := rfl
  rw [hfirst, hsecond]
  rcases h.write c.operation.call s hs c.operation.isRead_call with ⟨⟨e, he⟩, hview⟩ | hstore
  · rw [he]
    exact .inl ⟨⟨_, rfl⟩, hview⟩
  · rw [Store.answer_call] at hstore
    cases hperform : (view s).perform c.operation with
    | error e =>
      rw [hperform] at hstore
      obtain ⟨hresult, hview⟩ := Prod.ext_iff.1 hstore
      simp only [Store.writing] at hresult hview
      rw [hresult]
      exact .inl ⟨⟨_, rfl⟩, hview⟩
    | ok t =>
      rw [hperform] at hstore
      obtain ⟨hresult, hview⟩ := Prod.ext_iff.1 hstore
      simp only [Store.writing] at hresult hview
      rw [hresult, hview]
      exact .inr ⟨rfl, rfl⟩

theorem Provider.Fronts.good_apply {p : Provider σ} {nameservers : List String}
    {view : σ → Store} {Good : σ → Prop} (h : p.Fronts nameservers view Good) {s : σ}
    (hs : Good s) (c : Correction) : Good (c.apply p s).2 :=
  h.good c.operation.call s hs

def Call.initial {α : Type} : Call α → Char
  | .zoneExists _ => 'z'
  | .list _ => 'l'
  | .get .. => 'g'
  | .nameservers _ => 'n'
  | .createZone _ | .create .. => 'c'
  | .update .. => 'u'
  | .delete .. => 'd'

theorem Call.head?_text {α : Type} (c : Call α) : c.text.toList.head? = some c.initial := by
  cases c <;> simp [text, initial, toString]

/-- The line of a call tells whether it reads. -/
theorem Call.text_ne_of_isRead {α β : Type} {c : Call α} {d : Call β} (hc : c.isRead = true)
    (hd : d.isRead = false) : c.text ≠ d.text := by
  intro h
  have hinitial : c.initial = d.initial := by
    rw [← Option.some.injEq, ← c.head?_text, ← d.head?_text, h]
  cases c <;> cases hc <;> cases d <;> cases hd <;> simp [initial] at hinitial

namespace Injected

/-- Only failures of writes are planned, and no reference is added to a listing. -/
structure FailsWrites (s : Injected σ) : Prop where
  refs : s.extraRefs = []
  faults : ∀ f ∈ s.faults, ∃ (c : Call Unit) (e : Error),
    c.isRead = false ∧ f.line = c.text ∧ f.fault = .error e

theorem FailsWrites.record {s : Injected σ} (h : s.FailsWrites) (line : String) :
    (s.record line).FailsWrites where
  refs := h.refs
  faults := by
    intro f hf
    obtain ⟨g, hg, rfl⟩ := List.mem_map.1 hf
    obtain ⟨c, e, hc, hline, hfault⟩ := h.faults g hg
    refine ⟨c, e, hc, ?_⟩
    split <;> exact ⟨hline, hfault⟩

theorem FailsWrites.faultFor? {s : Injected σ} (h : s.FailsWrites) {line : String} {f : Fault}
    (hf : s.faultFor? line = some f) :
    ∃ (c : Call Unit) (e : Error), c.isRead = false ∧ line = c.text ∧ f = .error e := by
  obtain ⟨g, hg, rfl⟩ := Option.map_eq_some_iff.1 hf
  obtain ⟨c, e, hc, hline, hfault⟩ := h.faults g (List.mem_of_find?_eq_some hg)
  have hsame := List.find?_some hg
  simp only [Bool.and_eq_true, decide_eq_true_eq] at hsame
  exact ⟨c, e, hc, hsame.1 ▸ hline, hfault⟩

/-- A call that meets no fault is answered by the provider behind. -/
theorem answer_of_faultFor?_eq_none {s : Injected σ} (hrefs : s.extraRefs = []) (p : Provider σ)
    {α : Type} {c : Call α} (hnone : s.faultFor? c.text = none) :
    Injected.answer p c s =
      ((p.answer c s.inner).1, { s.record c.text with inner := (p.answer c s.inner).2 }) := by
  have hnothing : ∀ outcome : Except Error α, outcome.map (withExtraRefs c []) = outcome := by
    intro outcome
    cases outcome with
    | error e => rfl
    | ok a => cases c <;> simp [Except.map, withExtraRefs]
  rw [Injected.answer, hnone]
  simp only [forward, Injected.record, hrefs, hnothing]

/-- Planned failures of writes in front of a provider that has a store behind it. -/
theorem fronts {p : Provider σ} {nameservers : List String} {view : σ → Store}
    {Good : σ → Prop} (h : p.Fronts nameservers view Good) (name : String)
    (capabilities : Capabilities) :
    (provider name capabilities p).Fronts nameservers (fun s => view s.inner)
      (fun s => s.FailsWrites ∧ Good s.inner) where
  read := by
    rintro α c s ⟨hfails, hgood⟩ hc
    have hnone : s.faultFor? c.text = none := by
      cases hfault : s.faultFor? c.text with
      | none => rfl
      | some f =>
        obtain ⟨d, _, hd, htext, -⟩ := hfails.faultFor? hfault
        exact absurd htext (Call.text_ne_of_isRead hc hd)
    change (Injected.answer p c s).1 = _ ∧ view (Injected.answer p c s).2.inner = _
    rw [answer_of_faultFor?_eq_none hfails.refs p hnone]
    exact h.read c s.inner hgood hc
  write := by
    rintro α c s ⟨hfails, hgood⟩ hc
    change ((∃ e, (Injected.answer p c s).1 = .error e) ∧
      view (Injected.answer p c s).2.inner = _) ∨
        ((Injected.answer p c s).1, view (Injected.answer p c s).2.inner) = _
    cases hfault : s.faultFor? c.text with
    | none =>
      rw [answer_of_faultFor?_eq_none hfails.refs p hfault]
      exact h.write c s.inner hgood hc
    | some f =>
      obtain ⟨_, e, -, -, rfl⟩ := hfails.faultFor? hfault
      have hanswer : Injected.answer p c s = (.error e, s.record c.text) := by
        rw [Injected.answer, hfault]
      rw [hanswer]
      exact .inl ⟨⟨e, rfl⟩, rfl⟩
  good := by
    rintro α c s ⟨hfails, hgood⟩
    change (Injected.answer p c s).2.FailsWrites ∧ Good (Injected.answer p c s).2.inner
    cases hfault : s.faultFor? c.text with
    | none =>
      rw [answer_of_faultFor?_eq_none hfails.refs p hfault]
      have hrecord := hfails.record c.text
      exact ⟨⟨hrecord.refs, hrecord.faults⟩, h.good c s.inner hgood⟩
    | some f =>
      obtain ⟨_, e, -, -, rfl⟩ := hfails.faultFor? hfault
      have hanswer : Injected.answer p c s = (.error e, s.record c.text) := by
        rw [Injected.answer, hfault]
      rw [hanswer]
      exact ⟨hfails.record c.text, hgood⟩
  alive := by
    rintro α c s ⟨hfails, hgood⟩
    change Injected.crash c s = none
    cases hfault : s.faultFor? c.text with
    | none => rw [crash, hfault]
    | some f =>
      obtain ⟨_, e, -, -, rfl⟩ := hfails.faultFor? hfault
      rw [crash, hfault]

end Injected

end DnsReconcile
