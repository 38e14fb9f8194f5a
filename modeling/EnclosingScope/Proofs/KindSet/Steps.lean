import EnclosingScope.Proofs.KindSet
import Mathlib.Data.Set.Card

namespace EnclosingScope.KindSet

open Text

inductive Step where
  | insert (name : String)
  | erase (name : String)
  | contains (name : String)
  deriving DecidableEq, Repr

namespace Step

def apply (set : KindSet) : Step → KindSet × Bool
  | insert name => set.insert name
  | erase name => set.erase name
  | contains name => (set, set.contains name)

def members (names : Set String) : Step → Set String
  | insert name => names ∪ {name}
  | erase name => names \ {name}
  | contains _ => names

def Holds (names : Set String) : Step → Prop
  | insert name => name ∉ names
  | erase name => name ∈ names
  | contains name => name ∈ names

end Step

def after (set : KindSet) (steps : List Step) : KindSet :=
  steps.foldl (fun set step => (step.apply set).1) set

def membersAfter (names : Set String) (steps : List Step) : Set String :=
  steps.foldl Step.members names

structure Represents (set : KindSet) (names : Set String) : Prop where
  contains_iff : ∀ name, set.contains name = true ↔ name ∈ names
  ascending : set.toList.Pairwise fun earlier later => bytes earlier < bytes later
  nodup : set.toList.Nodup
  mem_toList_iff : ∀ name, name ∈ set.toList ↔ name ∈ names
  size_eq_length : set.size = set.toList.length
  size_eq_ncard : set.size = names.ncard
  isEmpty_iff : set.isEmpty = true ↔ names = ∅

variable {set : KindSet} {names : Set String}

theorem Sorted.represents (h : set.Sorted) (hmem : ∀ name, name ∈ set ↔ name ∈ names) :
    set.Represents names := by
  have hnames : {name | name ∈ set.names} = names := Set.ext hmem
  constructor
  · intro name
    rw [KindSet.contains_iff, hmem]
  · exact h
  · exact h.nodup
  · exact hmem
  · rfl
  · have hcard : set.names.toFinset.card = set.names.length := List.toFinset_card_of_nodup h.nodup
    rw [size, ← hcard, ← Set.ncard_coe_finset, List.coe_toFinset, hnames]
  · rw [isEmpty, List.isEmpty_iff, ← hnames, Set.eq_empty_iff_forall_notMem]
    exact List.eq_nil_iff_forall_not_mem

namespace Represents

theorem mem_iff (h : set.Represents names) (name : String) : name ∈ set ↔ name ∈ names :=
  h.mem_toList_iff name

theorem apply (h : set.Represents names) (step : Step) :
    (step.apply set).1.Represents (step.members names) := by
  have hsorted : set.Sorted := h.ascending
  cases step with
  | insert name =>
      refine (hsorted.insert name).represents fun other => ?_
      rw [mem_insert, h.mem_iff, or_comm]
      rfl
  | erase name =>
      refine (hsorted.erase name).represents fun other => ?_
      constructor
      · intro ho
        refine ⟨(h.mem_iff other).1 (mem_of_mem_erase ho), ?_⟩
        rintro rfl
        exact hsorted.not_mem_erase _ ho
      · rintro ⟨ho, hne⟩
        exact mem_erase_of_ne hne ((h.mem_iff other).2 ho)
  | contains name => exact h

theorem told_iff (h : set.Represents names) (step : Step) :
    (step.apply set).2 = true ↔ step.Holds names := by
  cases step with
  | insert name =>
      change (!set.contains name) = true ↔ name ∉ names
      rw [Bool.not_eq_true', ← Bool.not_eq_true, h.contains_iff]
  | erase name => exact h.contains_iff name
  | contains name => exact h.contains_iff name

theorem after (h : set.Represents names) (steps : List Step) :
    (set.after steps).Represents (membersAfter names steps) := by
  induction steps generalizing set names with
  | nil => exact h
  | cons step steps ih => exact ih (h.apply step)

end Represents

theorem represents_ofList (names : List String) :
    (ofList names).Represents {name | name ∈ names} :=
  (sorted_ofList names).represents fun _ => mem_ofList

structure Follows (set : KindSet) (names : Set String) (steps : List Step) : Prop where
  represents : (set.after steps).Represents (membersAfter names steps)
  told_iff : ∀ step : Step,
    (step.apply (set.after steps)).2 = true ↔ step.Holds (membersAfter names steps)
  contains_keeps : ∀ name, ((Step.contains name).apply (set.after steps)).1 = set.after steps

theorem Represents.follows (h : set.Represents names) (steps : List Step) :
    set.Follows names steps where
  represents := h.after steps
  told_iff := (h.after steps).told_iff
  contains_keeps _ := rfl

theorem steps_act_as_on_names (names : List String) (steps : List Step) :
    (ofList names).Follows {name | name ∈ names} steps ∧
      scopes.Follows {name | name ∈ scopeKinds} steps :=
  ⟨(represents_ofList names).follows steps, (represents_ofList scopeKinds).follows steps⟩

end EnclosingScope.KindSet
