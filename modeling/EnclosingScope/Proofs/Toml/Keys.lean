import EnclosingScope.Toml.Reader
import Mathlib.Data.List.Nodup

namespace EnclosingScope.Toml

def Members.names (members : Members) : List String :=
  members.map (·.1.name)

def Members.Distinct (members : Members) : Prop :=
  members.names.Nodup

namespace Members

variable {members : Members} {name : String}

theorem distinct_nil : Distinct [] :=
  List.nodup_nil

theorem not_mem_names_of_find? (h : members.find? name = none) : name ∉ members.names := by
  intro hmem
  obtain ⟨member, hm, rfl⟩ := List.mem_map.1 hmem
  simpa using List.find?_eq_none.1 h member hm

theorem names_replace (members : Members) (name : String) (item : Item) :
    (members.replace name item).names = members.names := by
  induction members with
  | nil => rfl
  | cons member members ih =>
      obtain ⟨key, span, old⟩ := member
      rw [replace]
      split
      · rfl
      · exact congrArg (key.name :: ·) ih

theorem not_mem_names_erase (members : Members) (name : String) :
    name ∉ (members.erase name).names := by
  intro hmem
  obtain ⟨member, hm, rfl⟩ := List.mem_map.1 hmem
  simpa using (List.mem_filter.1 hm).2

namespace Distinct

theorem replace (h : members.Distinct) (name : String) (item : Item) :
    (members.replace name item).Distinct := by
  rwa [Distinct, names_replace]

theorem erase (h : members.Distinct) (name : String) : (members.erase name).Distinct :=
  List.Nodup.sublist (List.filter_sublist.map _) h

theorem append (h : members.Distinct) {member : Key × Span × Item}
    (hnew : member.1.name ∉ members.names) : Distinct (members ++ [member]) := by
  rw [Distinct, names, List.map_append, List.map_singleton, ← List.concat_eq_append]
  exact List.Nodup.concat hnew h

end Distinct

end Members

def KeepsDistinct (change : Members → Option Members) : Prop :=
  ∀ members changed, change members = some changed → members.Distinct → changed.Distinct

theorem keepsDistinct_under {dots : Bool} {change : Origin → Members → Option Members}
    (h : ∀ origin, KeepsDistinct (change origin)) (path : List Key) (origin : Origin) :
    KeepsDistinct (Item.under dots change path origin) := by
  intro members changed hchanged hd
  cases path with
  | nil => exact h origin members changed hchanged hd
  | cons key path =>
      rw [Item.under] at hchanged
      split at hchanged
      · next hnone =>
          obtain ⟨below, -, rfl⟩ := Option.map_eq_some_iff.1 hchanged
          exact hd.append (Members.not_mem_names_of_find? hnone)
      · split at hchanged
        · cases hchanged
        · obtain ⟨below, -, rfl⟩ := Option.map_eq_some_iff.1 hchanged
          exact hd.replace key.name _
      · obtain ⟨items, -, rfl⟩ := Option.map_eq_some_iff.1 hchanged
        exact hd.replace key.name _
      · cases hchanged

theorem keepsDistinct_addMember (path : List Key) (key : Key) (span : Span) (item : Item)
    (origin : Origin) : KeepsDistinct (addMember path key span item origin) := by
  refine keepsDistinct_under (fun origin members changed hchanged hd => ?_) path origin
  split at hchanged
  · cases hchanged
  · split at hchanged
    · cases hchanged
    · next hnew =>
        cases hchanged
        rw [Bool.not_eq_true, Option.isSome_eq_false_iff, Option.isNone_iff_eq_none] at hnew
        exact hd.append (Members.not_mem_names_of_find? hnew)

theorem keepsDistinct_addTable (key : Key) (span : Span) : KeepsDistinct (addTable key span) := by
  intro members changed hchanged hd
  unfold addTable at hchanged
  split at hchanged
  · next hnone =>
      cases hchanged
      exact hd.append (Members.not_mem_names_of_find? hnone)
  · cases hchanged
    exact (hd.erase key.name).append (Members.not_mem_names_erase members key.name)
  · cases hchanged

theorem keepsDistinct_addElement (key : Key) (span : Span) :
    KeepsDistinct (addElement key span) := by
  intro members changed hchanged hd
  unfold addElement at hchanged
  split at hchanged
  · next hnone =>
      cases hchanged
      exact hd.append (Members.not_mem_names_of_find? hnone)
  · cases hchanged
    exact hd.replace key.name _
  · cases hchanged

namespace Reader

variable {α β : Type} {P : α → Prop} {Q : β → Prop}

def Yields (reader : Reader α) (P : α → Prop) : Prop :=
  ∀ s a s', reader.run s = some (a, s') → P a

theorem Yields.bind {reader : Reader α} {next : α → Reader β} (h : Yields reader P)
    (h' : ∀ a, P a → Yields (next a) Q) : Yields (reader >>= next) Q := by
  intro s b s' hrun
  rw [StateT.run_bind] at hrun
  obtain ⟨⟨a, mid⟩, hreader, hnext⟩ := Option.bind_eq_some_iff.1 hrun
  exact h' a (h s a mid hreader) mid b s' hnext

theorem Yields.after {reader : Reader α} {next : α → Reader β} (h : ∀ a, Yields (next a) Q) :
    Yields (reader >>= next) Q :=
  Yields.bind (P := fun _ => True) (fun _ _ _ _ => trivial) fun a _ => h a

theorem yields_pure {a : α} (h : P a) : Yields (pure a) P := by
  intro s a' s' hrun
  cases hrun
  exact h

theorem yields_failure : Yields failure P := by
  intro s a s' hrun
  cases hrun

theorem yields_changed {change : Members → Option Members} (hkeeps : KeepsDistinct change)
    {members : Members} (hd : members.Distinct) (path : List Key) :
    Yields
      (match change members with
        | some members => pure (Section.mk path members)
        | none => failure)
      fun s => s.members.Distinct := by
  split
  · next changed hchanged => exact yields_pure (hkeeps _ _ hchanged hd)
  · exact yields_failure

variable {s : Section}

theorem yields_header (hd : s.members.Distinct) :
    Yields (header s) fun s => s.members.Distinct := by
  refine Yields.after fun start => Yields.after fun _ => Yields.after fun many =>
    Yields.after fun keys => Yields.after fun _ => Yields.after fun stop => ?_
  refine yields_changed (keepsDistinct_under (fun _ => ?_) keys.1 .headed) hd _
  cases many with
  | true => exact keepsDistinct_addElement keys.2 ⟨start, stop⟩
  | false => exact keepsDistinct_addTable keys.2 ⟨start, stop⟩

theorem yields_assignment (hd : s.members.Distinct) :
    Yields (assignment s) fun s => s.members.Distinct := by
  refine Yields.after fun keys => Yields.after fun _ => Yields.after fun _ =>
    Yields.after fun value => ?_
  refine yields_changed (keepsDistinct_under (fun origin => ?_) s.path .headed) hd _
  exact keepsDistinct_addMember keys.1 keys.2 value.1 value.2 origin

theorem yields_statementsFrom (fuel : Nat) (hd : s.members.Distinct) :
    Yields (statementsFrom fuel s) fun s => s.members.Distinct := by
  induction fuel generalizing s with
  | zero => exact yields_failure
  | succ fuel ih =>
      refine Yields.after fun _ => Yields.after fun next => ?_
      cases next with
      | none => exact yields_pure hd
      | some c =>
          have hrest : ∀ changed : Section, changed.members.Distinct →
              Yields (do endOfLine; statementsFrom fuel changed) fun s => s.members.Distinct :=
            fun changed hchanged => Yields.after fun _ => ih hchanged
          dsimp only
          split
          · exact hrest s hd
          · split
            · exact (yields_header hd).bind hrest
            · exact (yields_assignment hd).bind hrest

theorem yields_document : Yields document Members.Distinct :=
  Yields.after fun _ => Yields.after fun size =>
    (yields_statementsFrom (size + 1) Members.distinct_nil).bind fun _ hd => yields_pure hd

end Reader

theorem distinct_of_parse {text : String} {members : Members} (h : parse text = some members) :
    members.Distinct := by
  obtain ⟨⟨found, rest⟩, hrun, rfl⟩ := Option.map_eq_some_iff.1 h
  exact Reader.yields_document _ found rest hrun

end EnclosingScope.Toml
