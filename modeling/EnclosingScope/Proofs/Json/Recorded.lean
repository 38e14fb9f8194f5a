import EnclosingScope.Proofs.Json.Fields

namespace EnclosingScope.Json

open Reader

theorem items_of_parts {ps : List Part} (hspaced : ∀ p ∈ ps, p.Spaced)
    (hps : ∀ p ∈ ps, WellFormed p.core) : ∃ items : List Item, items.map Item.toPart = ps := by
  induction ps with
  | nil => exact ⟨[], rfl⟩
  | cons p ps ih =>
      obtain ⟨hp, hspaced⟩ := List.forall_mem_cons.1 hspaced
      obtain ⟨hcore, hps⟩ := List.forall_mem_cons.1 hps
      obtain ⟨items, rfl⟩ := ih hspaced hps
      exact ⟨⟨p, hp, hcore⟩ :: items, rfl⟩

theorem members_of_entries {es : List Entry} (hspaced : ∀ e ∈ es, e.Spaced)
    (hspelled : ∀ e ∈ es, ∃ s, Spells e.body s) (hes : ∀ e ∈ es, WellFormed e.value) :
    ∃ members : List Member, members.map Member.toEntry = es := by
  induction es with
  | nil => exact ⟨[], rfl⟩
  | cons e es ih =>
      obtain ⟨he, hspaced⟩ := List.forall_mem_cons.1 hspaced
      obtain ⟨⟨s, hs⟩, hspelled⟩ := List.forall_mem_cons.1 hspelled
      obtain ⟨hvalue, hes⟩ := List.forall_mem_cons.1 hes
      obtain ⟨members, rfl⟩ := ih hspaced hspelled hes
      rw [← String.toList_ofList (l := s)] at hs
      exact ⟨⟨e, String.ofList s, he, hs, hvalue⟩ :: members, rfl⟩

theorem forall_of_foldlM {β γ : Type} {f : β → γ → Option β} {xs : List γ} {s s' : β}
    (h : xs.foldlM f s = some s') : ∀ x ∈ xs, ∃ s₁ s₂, f s₁ x = some s₂ := by
  induction xs generalizing s with
  | nil => exact List.forall_mem_nil _
  | cons x xs ih =>
      rw [List.foldlM_cons] at h
      obtain ⟨s₂, hx, hrest⟩ := Option.bind_eq_some_iff.1 h
      exact List.forall_mem_cons.2 ⟨⟨s, s₂, hx⟩, ih hrest⟩

namespace Shape

variable {α : Type} {shape : Shape α} {depth : Nat}

theorem spells_of_member {e : Entry} (hb : Body e.body) {s s' : List String × α}
    (h : outcome (shape.member depth s) e.part.core = some s') : ∃ s, Spells e.body s := by
  obtain ⟨name, _, hname, -⟩ := takes_bind_iff.1 (outcome_eq_some_iff.1 h)
  obtain ⟨s, hs, -⟩ := spells_of_takes_string hb hname
  exact ⟨s, hs⟩

theorem recordText_of_outcome (hf : shape.FieldsUniform) {v : List Char} (hv : WellFormed v) {a : α}
    (h : outcome (shape.read depth) v = some a) : RecordText v := by
  obtain ⟨c, tail, rfl, hled⟩ := hv.led
  have htakes := outcome_eq_some_iff.1 h
  cases depth with
  | zero =>
      have hread := (takes_peek_here hled.solid tail).bind_iff.1 htakes
      split at hread
      · exact absurd hread not_takes_throw
      · exact absurd hread not_takes_otherThan
  | succ depth =>
      have hread := (takes_peek_here hled.solid tail).bind_iff.1 htakes
      split at hread
      · obtain ⟨ps, pad, hspaced, hps, hpad, htext⟩ := hled.array rfl
        obtain ⟨items, rfl⟩ := items_of_parts hspaced hps
        exact .inr ⟨⟨items, pad, hpad⟩, htext⟩
      · obtain ⟨es, pad, hspaced, hnamed, hes, hpad, htext⟩ := hled.object rfl
        have hmembers := decides_fromMembers depth hf hspaced hnamed hes hpad
        rw [← htext] at hmembers
        have houtcome := hmembers.outcome_eq.symm.trans (outcome_eq_some_iff.2 hread)
        obtain ⟨s, hfold, -⟩ := Option.bind_eq_some_iff.1 houtcome
        have hspelled : ∀ e ∈ es, ∃ s, Spells e.body s := by
          intro e he
          obtain ⟨s₁, s₂, hmember⟩ := forall_of_foldlM hfold e he
          exact spells_of_member (hnamed e he) hmember
        obtain ⟨members, rfl⟩ := members_of_entries hspaced hspelled hes
        exact .inl ⟨⟨members, pad, hpad⟩, htext⟩
      · exact absurd hread not_takes_otherThan

end Shape

end EnclosingScope.Json
