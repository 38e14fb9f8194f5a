import EnclosingScope.Json.Shape
import EnclosingScope.Proofs.Json.Value

namespace EnclosingScope.Json

open Value

namespace Reader

variable {α β σ : Type} {P : α → Prop} {Q : β → Prop}

def Yields (reader : Reader α) (P : α → Prop) : Prop :=
  ∀ cs a rest, Takes reader cs a rest → P a

theorem Yields.bind {reader : Reader α} {next : α → Reader β} (h : Yields reader P)
    (h' : ∀ a, P a → Yields (next a) Q) : Yields (reader >>= next) Q := by
  intro cs b rest htakes
  obtain ⟨a, mid, hreader, hnext⟩ := takes_bind_iff.1 htakes
  exact h' a (h cs a mid hreader) mid b rest hnext

theorem yields_any (reader : Reader α) : Yields reader fun _ => True :=
  fun _ _ _ _ => trivial

theorem Yields.after {reader : Reader α} {next : α → Reader β} (h : ∀ a, Yields (next a) Q) :
    Yields (reader >>= next) Q :=
  (yields_any reader).bind fun a _ => h a

theorem yields_pure {a : α} (h : P a) : Yields (pure a) P := by
  intro cs a' rest htakes
  obtain ⟨rfl, -⟩ := takes_pure_iff.1 htakes
  exact h

theorem yields_throw {e : Failure} : Yields (throw e) P :=
  fun _ _ _ htakes => absurd htakes not_takes_throw

theorem yields_unfit {mismatch : Mismatch} : Yields (unfit mismatch) P :=
  yields_throw

theorem yields_otherThan {wanted : String} : Yields (otherThan wanted) P :=
  Yields.after fun _ => yields_unfit

theorem Yields.split {p : Prop} [Decidable p] {reader other : Reader α} (h : p → Yields reader P)
    (h' : ¬p → Yields other P) : Yields (if p then reader else other) P := by
  split
  · exact h ‹_›
  · exact h' ‹_›

variable {S : σ → Prop}

theorem yields_items {item : σ → Reader σ} (hitem : ∀ s, S s → Yields (item s) S) (fuel : Nat)
    (first : Bool) {s : σ} (hs : S s) : Yields (items item fuel first s) S := by
  induction fuel generalizing first s with
  | zero => exact yields_throw
  | succ fuel ih =>
      refine Yields.after fun more => .split (fun _ => ?_) (fun _ => ?_)
      · exact (hitem s hs).bind fun s' hs' => ih false hs'
      · exact Yields.after fun _ => yields_pure hs

theorem yields_members {member : σ → Reader σ} (hmember : ∀ s, S s → Yields (member s) S)
    (fuel : Nat) (first : Bool) {s : σ} (hs : S s) : Yields (members member fuel first s) S := by
  induction fuel generalizing first s with
  | zero => exact yields_throw
  | succ fuel ih =>
      refine Yields.after fun more => .split (fun _ => ?_) (fun _ => ?_)
      · exact (hmember s hs).bind fun s' hs' => ih false hs'
      · exact Yields.after fun _ => yields_pure hs

theorem yields_listOf {reader : Reader α} (h : Yields reader P) :
    Yields (listOf reader) fun items => ∀ item ∈ items, P item := by
  refine Yields.after fun _ => Yields.after fun cs => ?_
  have hitem : ∀ back : List α, (∀ item ∈ back, P item) →
      Yields (onto reader back) fun items => ∀ item ∈ items, P item := fun back hback =>
    h.bind fun a ha => yields_pure (List.forall_mem_cons.2 ⟨ha, hback⟩)
  refine (yields_items hitem _ true (List.forall_mem_nil _)).bind fun back hback => ?_
  exact yields_pure fun item hi => hback item (List.mem_reverse.1 hi)

end Reader

theorem mem_insert {name : String} {v : Value} {members : List (String × Value)}
    {m : String × Value} (h : m ∈ Members.insert name v members) :
    m = (name, v) ∨ m ∈ members := by
  induction members with
  | nil => exact .inl (List.mem_singleton.1 h)
  | cons first members ih =>
      rw [Members.insert] at h
      split at h
      · exact (List.mem_cons.1 h).imp_right (List.mem_cons_of_mem _)
      split at h
      · exact List.mem_cons.1 h
      · rcases List.mem_cons.1 h with rfl | h
        · exact .inr List.mem_cons_self
        · exact (ih h).imp_right (List.mem_cons_of_mem _)

theorem pairwise_insert {members : List (String × Value)}
    (h : members.Pairwise fun a b => Text.before a.1 b.1) (name : String) (v : Value) :
    (Members.insert name v members).Pairwise fun a b => Text.before a.1 b.1 := by
  induction members with
  | nil => exact List.pairwise_singleton _ _
  | cons first members ih =>
      obtain ⟨hfirst, hmembers⟩ := List.pairwise_cons.1 h
      rw [Members.insert]
      split
      · next heq => exact List.pairwise_cons.2 ⟨fun m hm => heq ▸ hfirst m hm, hmembers⟩
      split
      · next hbefore =>
          refine List.pairwise_cons.2 ⟨fun m hm => ?_, h⟩
          rcases List.mem_cons.1 hm with rfl | hm
          · exact hbefore
          · exact Text.before_trans hbefore (hfirst m hm)
      · next hne hnot =>
          refine List.pairwise_cons.2 ⟨fun m hm => ?_, ih hmembers⟩
          rcases mem_insert hm with rfl | hm
          · exact Text.before_of_not_before hne hnot
          · exact hfirst m hm

def Members.Ordered (depth : Nat) (found : List (String × Value)) : Prop :=
  (found.Pairwise fun a b => Text.before a.1 b.1) ∧ ∀ m ∈ found, Within depth m.2

namespace Reader

theorem yields_inserting {reader : Reader Value} {depth : Nat}
    (h : Yields reader (Within depth)) {found : List (String × Value)}
    (hf : Members.Ordered depth found) :
    Yields (inserting reader found) (Members.Ordered depth) := by
  refine Yields.after fun name => Yields.after fun _ => h.bind fun v hv => yields_pure ?_
  refine ⟨pairwise_insert hf.1 name v, fun m hm => ?_⟩
  rcases mem_insert hm with rfl | hm
  · exact hv
  · exact hf.2 m hm

theorem yields_valueWith {onArray onObject : Reader Value} {depth : Nat}
    (harray : Yields onArray (Within depth)) (hobject : Yields onObject (Within depth)) :
    Yields (valueWith onArray onObject) (Within depth) := by
  refine Yields.after fun c => ?_
  split
  · exact Yields.after fun _ => Yields.after fun _ => yields_pure (.null depth)
  · exact Yields.after fun _ => Yields.after fun _ => yields_pure (.boolean depth true)
  · exact Yields.after fun _ => Yields.after fun _ => yields_pure (.boolean depth false)
  · exact Yields.after fun s => yields_pure (.string depth s)
  · exact harray
  · exact hobject
  · exact .split (fun _ => Yields.after fun n => yields_pure (.number depth n))
      fun _ => yields_throw

theorem yields_value (depth : Nat) : Yields (value depth) (Within depth) := by
  induction depth with
  | zero => exact yields_valueWith yields_throw yields_throw
  | succ depth ih =>
      refine yields_valueWith ?_ ?_
      · exact (yields_listOf ih).bind fun items hitems => yields_pure (.array hitems)
      · refine Yields.after fun _ => Yields.after fun cs => ?_
        have hnil : Members.Ordered depth [] := ⟨.nil, List.forall_mem_nil _⟩
        refine (yields_members (fun _ hf => yields_inserting ih hf) _ true hnil).bind ?_
        exact fun found hfound => yields_pure (.object hfound.1 hfound.2)

theorem yields_values (depth : Nat) :
    Yields (values (depth + 1)) fun items => ∀ item ∈ items, Within depth item :=
  Yields.after fun _ => .split (fun _ => yields_listOf (yields_value depth))
    fun _ => yields_otherThan

theorem yields_optional {reader : Reader α} (h : Yields reader P) :
    Yields (optional reader) fun o => ∀ a ∈ o, P a := by
  refine Yields.after fun _ => .split (fun _ => ?_) (fun _ => ?_)
  · refine Yields.after fun _ => Yields.after fun _ => yields_pure fun a ha => ?_
    cases ha
  · exact h.bind fun a ha => yields_pure fun b hb => Option.some.inj hb ▸ ha

end Reader

open Reader

variable {α β : Type} {P : β → Prop} {Q : α → Prop} {depth : Nat}

def Field.Keeps (field : Field α) (depth : Nat) (Q : α → Prop) : Prop :=
  Yields (field.read depth) fun put => ∀ a, Q a → Q (put a)

theorem Field.keeps_of {reader : Nat → Reader β} (h : Yields (reader depth) P) (name : String)
    (required : Bool) {put : β → α → α} (hput : ∀ b, P b → ∀ a, Q a → Q (put b a)) :
    (Field.of name required reader put).Keeps depth Q :=
  h.bind fun b hb => yields_pure (hput b hb)

namespace Shape

variable {shape : Shape α}

theorem yields_fromItems {fields : List (Field α)} (h : ∀ field ∈ fields, field.Keeps depth Q)
    (count : Nat) {a : α} (ha : Q a) : Yields (shape.fromItems depth fields count a) Q := by
  induction fields generalizing count a with
  | nil => exact Yields.after fun _ => yields_pure ha
  | cons field fields ih =>
      refine Yields.after fun _ => .split (fun _ => ?_) (fun _ => yields_unfit)
      refine (h field List.mem_cons_self).bind fun put hput => ?_
      exact ih (fun f hf => h f (List.mem_cons_of_mem _ hf)) _ (hput a ha)

theorem yields_member (h : ∀ field ∈ shape.fields, field.Keeps depth Q)
    (s : List String × α) (hs : Q s.2) : Yields (shape.member depth s) fun s => Q s.2 := by
  refine Yields.after fun name => ?_
  split
  · exact Yields.after fun _ => Yields.after fun _ => Yields.after fun _ => yields_pure hs
  · next field hfind =>
      have hfield := h field (List.mem_of_find?_eq_some hfind)
      refine .split (fun _ => yields_unfit) (fun _ => Yields.after fun _ => ?_)
      exact hfield.bind fun put hput => yields_pure (hput s.2 hs)

theorem yields_read (h : ∀ field ∈ shape.fields, field.Keeps depth Q) (hblank : Q shape.blank) :
    Yields (shape.read (depth + 1)) Q := by
  refine Yields.after fun c => ?_
  split
  · exact Yields.after fun _ => yields_fromItems h 0 hblank
  · refine Yields.after fun _ => Yields.after fun cs => ?_
    refine (yields_members (yields_member h) _ true hblank).bind fun s hs => ?_
    obtain ⟨seen, a⟩ := s
    dsimp only
    split
    · exact yields_unfit
    · exact yields_pure hs
  · exact yields_otherThan

end Shape

end EnclosingScope.Json
