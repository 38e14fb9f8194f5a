import EnclosingScope.Proofs.Search.Largest

namespace EnclosingScope

namespace Candidate

variable {ν : Type}

def Exceeds (found : Candidate ν) (best : Option (Candidate ν)) : Prop :=
  ∀ current ∈ best, current.size < found.size

def merge : Option (Candidate ν) → Option (Candidate ν) → Option (Candidate ν)
  | none, found => found
  | some current, none => some current
  | some current, some next => if current.size < next.size then some next else some current

variable {best : Option (Candidate ν)} {current next found : Candidate ν}

@[simp]
theorem none_merge (found : Option (Candidate ν)) : merge none found = found := by
  cases found <;> rfl

@[simp]
theorem merge_none (best : Option (Candidate ν)) : merge best none = best := by
  cases best <;> rfl

theorem merge_of_lt (h : current.size < next.size) : merge (some current) (some next) = some next :=
  if_pos h

theorem merge_of_not_lt (h : ¬ current.size < next.size) :
    merge (some current) (some next) = some current :=
  if_neg h

theorem exceeds_none (found : Candidate ν) : found.Exceeds none := by
  intro current hc
  cases hc

theorem exceeds_some : found.Exceeds (some current) ↔ current.size < found.size := by
  simp [Exceeds]

theorem merge_of_exceeds (h : found.Exceeds best) : merge best (some found) = some found := by
  cases best with
  | none => rfl
  | some current => exact merge_of_lt (exceeds_some.1 h)

theorem merge_of_not_exceeds (h : ¬ found.Exceeds best) : merge best (some found) = best := by
  cases best with
  | none => exact absurd (exceeds_none found) h
  | some current => exact merge_of_not_lt (mt exceeds_some.2 h)

theorem merge_assoc (first second third : Option (Candidate ν)) :
    merge (merge first second) third = merge first (merge second third) := by
  rcases first with _ | a
  · rw [none_merge, none_merge]
  rcases second with _ | b
  · rw [merge_none, none_merge]
  rcases third with _ | c
  · rw [merge_none, merge_none]
  by_cases hab : a.size < b.size
  · by_cases hbc : b.size < c.size
    · have hac : a.size < c.size := UInt64.lt_trans hab hbc
      rw [merge_of_lt hab, merge_of_lt hbc, merge_of_lt hac]
    · rw [merge_of_lt hab, merge_of_not_lt hbc, merge_of_lt hab]
  · by_cases hbc : b.size < c.size
    · rw [merge_of_not_lt hab, merge_of_lt hbc]
    · have hac : ¬ a.size < c.size := by
        have hca : c.size ≤ a.size := UInt64.le_trans (UInt64.not_lt.1 hbc) (UInt64.not_lt.1 hab)
        exact UInt64.not_lt.2 hca
      rw [merge_of_not_lt hab, merge_of_not_lt hbc, merge_of_not_lt hab, merge_of_not_lt hac]

instance : Std.Associative (merge (ν := ν)) := ⟨merge_assoc⟩

theorem foldl_merge (best : Option (Candidate ν)) (findings : List (Option (Candidate ν))) :
    findings.foldl merge best = merge best (findings.foldl merge none) := by
  have hassoc : findings.foldl merge (merge best none) = merge best (findings.foldl merge none) :=
    List.foldl_assoc
  rwa [merge_none] at hassoc

theorem foldl_eq_merge {α : Type} {as : List α}
    {step : Option (Candidate ν) → α → Option (Candidate ν)}
    (h : ∀ a ∈ as, ∀ best, step best a = merge best (step none a))
    (best : Option (Candidate ν)) :
    as.foldl step best = (as.map (step none)).foldl merge best := by
  induction as generalizing best with
  | nil => rfl
  | cons a as ih =>
      rw [List.foldl_cons, List.map_cons, List.foldl_cons, h a List.mem_cons_self best]
      exact ih (fun b hb => h b (List.mem_cons_of_mem _ hb)) _

end Candidate

open EnclosingScope.Tree SyntaxNode

namespace Search

open Candidate

variable {ν : Type} [SyntaxNode ν] {r : LineRange} {kinds : KindSet}

theorem consider_eq_merge (r : LineRange) (kinds : KindSet) (node : ν)
    (best : Option (Candidate ν)) :
    consider r kinds node best = merge best (consider r kinds node none) := by
  unfold consider
  cases qualifies r kinds node with
  | false => exact (merge_none best).symm
  | true => cases best <;> rfl

def findings (r : LineRange) (kinds : KindSet) (node : ν) : List (Option (Candidate ν)) :=
  consider r kinds node none :: (children node).map fun child => explore r kinds child none

-- The induction on the tree gives the step for every child, the one on the children the rest.
theorem explore_eq_merge (r : LineRange) (kinds : KindSet) (node : ν)
    (best : Option (Candidate ν)) :
    explore r kinds node best = merge best (explore r kinds node none) := by
  induction node using childrenInduction generalizing best with
  | step node ih =>
      have hchildren : ∀ best,
          (children node).foldl (fun best child => explore r kinds child best) best =
            ((children node).map fun child => explore r kinds child none).foldl merge best :=
        foldl_eq_merge ih
      rw [explore_eq, explore_eq, hchildren, hchildren, consider_eq_merge, foldl_merge,
        foldl_merge (consider r kinds node none), merge_assoc]

theorem explore_eq_foldl_findings (r : LineRange) (kinds : KindSet) (node : ν)
    (best : Option (Candidate ν)) :
    explore r kinds node best = (findings r kinds node).foldl merge best := by
  rw [explore_eq, findings, List.foldl_cons, ← consider_eq_merge]
  exact foldl_eq_merge (fun child _ best => explore_eq_merge r kinds child best) _

theorem enclosing_eq_foldl_findings (r : LineRange) (kinds : KindSet) (node : ν) :
    enclosing r kinds node = ((findings r kinds node).foldl merge none).map (·.node) := by
  rw [enclosing, explore_eq_foldl_findings]

theorem explore_none (r : LineRange) (kinds : KindSet) (node : ν) :
    explore r kinds node none = (enclosing r kinds node).map .ofNode := by
  have hnothing : Best r kinds ([] : List ν) none := Best.nil
  rw [enclosing_eq_foldl, explore_eq_foldl, ← Option.map_none, foldl_consider_eq hnothing]

theorem search_goes_by_parts (r : LineRange) (kinds : KindSet) (node : ν)
    (best : Option (Candidate ν)) :
    (∀ found, explore r kinds node none = some found → found.Exceeds best →
      explore r kinds node best = some found) ∧
    ((¬ ∃ found, explore r kinds node none = some found ∧ found.Exceeds best) →
      explore r kinds node best = best) ∧
    explore r kinds node best = (findings r kinds node).foldl merge best ∧
    enclosing r kinds node = ((findings r kinds node).foldl merge none).map (·.node) ∧
    ∀ first second third : Option (Candidate ν),
      merge (merge first second) third = merge first (merge second third) := by
  refine ⟨fun found hf he => ?_, fun hno => ?_, explore_eq_foldl_findings r kinds node best,
    enclosing_eq_foldl_findings r kinds node, merge_assoc⟩
  · rw [explore_eq_merge, hf]
    exact merge_of_exceeds he
  · rw [explore_eq_merge]
    cases hf : explore r kinds node none with
    | none => exact merge_none best
    | some found => exact merge_of_not_exceeds fun he => hno ⟨found, hf, he⟩

def wideBlock : SyntaxTree :=
  .leaf "for_statement" ⟨1, 0⟩ ⟨6, 0⟩

def earlierBlock : SyntaxTree :=
  .leaf "try_statement" ⟨0, 0⟩ ⟨9, 0⟩

def branchedBlock : SyntaxTree :=
  .node "with_statement" ⟨2, 0⟩ ⟨5, 4⟩ false [.leaf "if_statement" ⟨2, 4⟩ ⟨5, 4⟩, wideBlock]

theorem explore_branchedBlock :
    explore ⟨4, 5, by decide, by decide⟩ .scopes branchedBlock none = some ⟨5, wideBlock⟩ := by
  have hpreorder : preorder branchedBlock =
      [branchedBlock, .leaf "if_statement" ⟨2, 4⟩ ⟨5, 4⟩] ++ wideBlock :: [] := by
    simp [branchedBlock, wideBlock, SyntaxTree.leaf, preorder_eq]
  have hfound : enclosing ⟨4, 5, by decide, by decide⟩ .scopes branchedBlock = some wideBlock := by
    refine enclosing_eq_iff.2 ⟨_, _, hpreorder, ?_, ?_, List.forall_mem_nil _⟩
    · decide +kernel
    · decide +kernel
  rw [explore_none, hfound]
  rfl

theorem branchedBlock_found_by_parts :
    let r : LineRange := ⟨4, 5, by decide, by decide⟩
    explore r .scopes branchedBlock none = some ⟨5, wideBlock⟩ ∧
      explore r .scopes branchedBlock (some ⟨4, earlierBlock⟩) = some ⟨5, wideBlock⟩ ∧
      explore r .scopes branchedBlock (some ⟨5, earlierBlock⟩) = some ⟨5, earlierBlock⟩ := by
  intro r
  obtain ⟨htakes, -⟩ := search_goes_by_parts r .scopes branchedBlock (some ⟨4, earlierBlock⟩)
  obtain ⟨-, hkeeps, -⟩ := search_goes_by_parts r .scopes branchedBlock (some ⟨5, earlierBlock⟩)
  have hlarger : Exceeds ⟨5, wideBlock⟩ (some ⟨4, earlierBlock⟩) := exceeds_some.2 (by decide)
  refine ⟨explore_branchedBlock, htakes _ explore_branchedBlock hlarger, hkeeps ?_⟩
  rintro ⟨found, hf, he⟩
  obtain rfl := Option.some.inj (hf.symm.trans explore_branchedBlock)
  exact absurd (exceeds_some.1 he) (by decide)

end Search

end EnclosingScope
