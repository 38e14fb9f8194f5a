import EnclosingScope.KindSet
import EnclosingScope.Proofs.Text.Bytes
import Mathlib.Data.List.Sort

namespace EnclosingScope

open Text

namespace SortedNames

variable {name other : String} {names : List String}

theorem mem_insert : other ∈ insert name names ↔ other = name ∨ other ∈ names := by
  induction names with
  | nil => simp [insert]
  | cons first rest ih =>
      simp only [insert]
      split
      · next heq =>
          subst heq
          simp
      · split
        · exact List.mem_cons
        · rw [List.mem_cons, ih, List.mem_cons]
          exact or_left_comm

theorem pairwise_insert (h : names.Pairwise before) : (insert name names).Pairwise before := by
  induction h with
  | nil => exact List.pairwise_singleton ..
  | @cons first rest hfirst hrest ih =>
      simp only [insert]
      split
      · exact .cons hfirst hrest
      · next hne =>
          split
          · next hlt =>
              refine .cons (fun other ho => ?_) (.cons hfirst hrest)
              rcases List.mem_cons.1 ho with rfl | ho
              · exact hlt
              · exact before_trans hlt (hfirst other ho)
          · next hge =>
              refine .cons (fun other ho => ?_) ih
              rcases mem_insert.1 ho with rfl | ho
              · exact before_of_not_before hne hge
              · exact hfirst other ho

theorem erase_eq : erase name names = names.erase name := by
  induction names with
  | nil => rfl
  | cons first rest ih =>
      rw [erase, List.erase_cons, ih]
      by_cases h : name = first
      · simp [h]
      · simp [h, Ne.symm h]

end SortedNames

namespace KindSet

variable {set : KindSet} {name other : String} {names : List String}

instance : Membership String KindSet := ⟨fun set name => name ∈ set.names⟩

instance (name : String) (set : KindSet) : Decidable (name ∈ set) :=
  inferInstanceAs (Decidable (name ∈ set.names))

instance : HasSubset KindSet := ⟨fun set larger => ∀ name ∈ set, name ∈ larger⟩

theorem mem_iff : name ∈ set ↔ name ∈ set.names := Iff.rfl

theorem contains_iff : set.contains name = true ↔ name ∈ set :=
  List.contains_iff_mem

theorem isEmpty_eq_false_iff : set.isEmpty = false ↔ ∃ name, name ∈ set := by
  rw [isEmpty, List.isEmpty_eq_false_iff_exists_mem]
  rfl

def Sorted (set : KindSet) : Prop :=
  set.names.Pairwise before

def insertAll (set : KindSet) (names : List String) : KindSet :=
  names.foldl (fun set name => (set.insert name).1) set

def eraseAll (set : KindSet) (names : List String) : KindSet :=
  names.foldl (fun set name => (set.erase name).1) set

theorem mem_insert : other ∈ (set.insert name).1 ↔ other = name ∨ other ∈ set :=
  SortedNames.mem_insert

theorem mem_insertAll : other ∈ set.insertAll names ↔ other ∈ set ∨ other ∈ names := by
  induction names generalizing set with
  | nil => simp [insertAll]
  | cons name names ih =>
      rw [insertAll, List.foldl_cons, ← insertAll, ih, mem_insert, List.mem_cons, or_assoc,
        or_left_comm]

theorem names_erase (set : KindSet) (name : String) :
    (set.erase name).1.names = set.names.erase name :=
  SortedNames.erase_eq

theorem mem_of_mem_erase (h : other ∈ (set.erase name).1) : other ∈ set := by
  rw [mem_iff, names_erase] at h
  exact List.mem_of_mem_erase h

theorem mem_erase_of_ne (hne : other ≠ name) (h : other ∈ set) : other ∈ (set.erase name).1 := by
  rw [mem_iff, names_erase]
  exact (List.mem_erase_of_ne hne).2 h

theorem eraseAll_subset (set : KindSet) (names : List String) : set.eraseAll names ⊆ set := by
  induction names generalizing set with
  | nil => exact fun name h => h
  | cons name names ih => exact fun other h => mem_of_mem_erase (ih _ other h)

theorem mem_eraseAll_of_not_mem (hn : other ∉ names) (h : other ∈ set) :
    other ∈ set.eraseAll names := by
  induction names generalizing set with
  | nil => exact h
  | cons name names ih =>
      rw [List.mem_cons, not_or] at hn
      exact ih hn.2 (mem_erase_of_ne hn.1 h)

namespace Sorted

theorem nodup (h : set.Sorted) : set.names.Nodup := by
  refine List.Pairwise.imp (fun {a b} hlt heq => ?_) h
  rw [heq] at hlt
  exact before_irrefl b hlt

theorem empty : KindSet.empty.Sorted :=
  .nil

theorem insert (h : set.Sorted) (name : String) : (set.insert name).1.Sorted :=
  SortedNames.pairwise_insert h

theorem erase (h : set.Sorted) (name : String) : (set.erase name).1.Sorted := by
  rw [Sorted, names_erase]
  exact List.Pairwise.sublist List.erase_sublist h

theorem insertAll (h : set.Sorted) (names : List String) : (set.insertAll names).Sorted := by
  induction names generalizing set with
  | nil => exact h
  | cons name names ih => exact ih (h.insert name)

theorem eraseAll (h : set.Sorted) (names : List String) : (set.eraseAll names).Sorted := by
  induction names generalizing set with
  | nil => exact h
  | cons name names ih => exact ih (h.erase name)

theorem ext {set' : KindSet} (h : set.Sorted) (h' : set'.Sorted)
    (hmem : ∀ name, name ∈ set ↔ name ∈ set') : set = set' := by
  have hnames : set.names = set'.names := List.Pairwise.eq_of_mem_iff h h' hmem
  cases set
  cases set'
  exact congrArg KindSet.mk hnames

theorem not_mem_erase (h : set.Sorted) (name : String) : name ∉ (set.erase name).1 := by
  rw [mem_iff, names_erase]
  exact h.nodup.not_mem_erase

theorem mem_eraseAll (h : set.Sorted) :
    other ∈ set.eraseAll names ↔ other ∈ set ∧ other ∉ names := by
  constructor
  · intro ho
    refine ⟨eraseAll_subset set names other ho, ?_⟩
    induction names generalizing set with
    | nil => simp
    | cons name names ih =>
        have hkept := eraseAll_subset (set.erase name).1 names other ho
        rw [List.mem_cons, not_or]
        exact ⟨fun heq => h.not_mem_erase name (heq ▸ hkept), ih (h.erase name) ho⟩
  · rintro ⟨ho, hn⟩
    exact mem_eraseAll_of_not_mem hn ho

end Sorted

theorem ofList_eq (names : List String) : ofList names = empty.insertAll names := rfl

theorem mem_ofList : name ∈ ofList names ↔ name ∈ names := by
  rw [ofList_eq, mem_insertAll]
  exact or_iff_right (List.not_mem_nil)

theorem sorted_ofList (names : List String) : (ofList names).Sorted :=
  Sorted.empty.insertAll names

theorem sorted_scopes : scopes.Sorted :=
  sorted_ofList scopeKinds

theorem mem_scopes : name ∈ scopes ↔ name ∈ scopeKinds :=
  mem_ofList

end KindSet

end EnclosingScope
