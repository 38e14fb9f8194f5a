import EnclosingScope.Proofs.Search.Pruned

namespace EnclosingScope

open EnclosingScope.Tree SyntaxNode

namespace Search

variable {ν : Type} [SyntaxNode ν] {r r₁ r₂ : LineRange} {kinds : KindSet}

theorem enclosingPlace_allowed {root : ν} {place : Placed ν}
    (h : enclosingPlace r kinds root = some place) : kind place ∈ kinds :=
  (enclosing_qualifies h).allowed

theorem enclosingPlace_mem {root : ν} {place : Placed ν}
    (h : enclosingPlace r kinds root = some place) : place ∈ preorder (Placed.root root) :=
  FirstLargest.mem (enclosing_eq_iff.1 h)

theorem not_mem_descendants_of_answers {root : ν} (h : WellNested root) {p₁ p₂ : Placed ν}
    (h₁ : enclosingPlace r₁ kinds root = some p₁) (h₂ : enclosingPlace r₂ kinds root = some p₂) :
    p₂ ∉ descendants p₁ := fun hb =>
  above_enclosingPlace_not_allowed h h₂ (enclosingPlace_mem h₁) hb (enclosingPlace_allowed h₁)

theorem answers_same_or_apart {root : ν} (h : Ordered root) (kinds : KindSet) (r₁ r₂ : LineRange)
    {n₁ n₂ : ν} (h₁ : enclosing r₁ kinds root = some n₁)
    (h₂ : enclosing r₂ kinds root = some n₂) :
    ∃ p₁ p₂ : Placed ν,
      (enclosingPlace r₁ kinds root = some p₁ ∧ p₁.node = n₁) ∧
      (enclosingPlace r₂ kinds root = some p₂ ∧ p₂.node = n₂) ∧
      (p₁ = p₂ ∨
        (p₂ ∉ descendants p₁ ∧ p₁ ∉ descendants p₂ ∧
          ((Precedes (Placed.root root) p₁ p₂ ∧ stopLine n₁ ≤ startLine n₂) ∨
            (Precedes (Placed.root root) p₂ p₁ ∧ stopLine n₂ ≤ startLine n₁)))) := by
  obtain ⟨p₁, hp₁, rfl⟩ := enclosingPlace_exists h₁
  obtain ⟨p₂, hp₂, rfl⟩ := enclosingPlace_exists h₂
  refine ⟨p₁, p₂, ⟨hp₁, rfl⟩, ⟨hp₂, rfl⟩, ?_⟩
  by_cases hne : p₁ = p₂
  · exact .inl hne
  · have hb := not_mem_descendants_of_answers h.nested hp₁ hp₂
    have ha := not_mem_descendants_of_answers h.nested hp₂ hp₁
    have hplaced : Ordered (Placed.root root) := .of_map Placed.keeps_node h
    refine .inr ⟨hb, ha, ?_⟩
    rcases hplaced.above_or_apart (enclosingPlace_mem hp₁) (enclosingPlace_mem hp₂) hne with
      hd | hd | ⟨hp, hle⟩ | ⟨hp, hle⟩
    · exact absurd hd hb
    · exact absurd hd ha
    · exact .inl ⟨hp, Point.line_le_line hle⟩
    · exact .inr ⟨hp, Point.line_le_line hle⟩

def upperBlock : SyntaxTree :=
  .node "if_statement" ⟨0, 0⟩ ⟨3, 4⟩ false
    [.node "for_statement" ⟨1, 2⟩ ⟨2, 8⟩ false []]

def lowerBlock : SyntaxTree :=
  .node "while_statement" ⟨3, 6⟩ ⟨5, 2⟩ false []

def touchingBlocks : SyntaxTree :=
  .node "module" ⟨0, 0⟩ ⟨9, 0⟩ false [upperBlock, lowerBlock]

theorem touchingBlocks_share_one_line :
    let r₁ : LineRange := ⟨2, 2, by decide, by decide⟩
    let r₂ : LineRange := ⟨5, 6, by decide, by decide⟩
    Ordered touchingBlocks ∧
      enclosing r₁ .scopes touchingBlocks = some upperBlock ∧
      enclosing r₂ .scopes touchingBlocks = some lowerBlock ∧
      (∃ p₁ p₂ : Placed SyntaxTree, p₁.node = upperBlock ∧ p₂.node = lowerBlock ∧
        p₂ ∉ descendants p₁ ∧ Precedes (Placed.root touchingBlocks) p₁ p₂) ∧
      stopLine upperBlock = startLine lowerBlock := by
  intro r₁ r₂
  have ho : Ordered touchingBlocks := by
    simp [touchingBlocks, upperBlock, lowerBlock, Point.le_iff]
  have hm : "module" ∉ KindSet.scopes := by decide +kernel
  have hi : "if_statement" ∈ KindSet.scopes := by decide +kernel
  have hw : "while_statement" ∈ KindSet.scopes := by decide +kernel
  have h₁ : enclosing r₁ .scopes touchingBlocks = some upperBlock := by
    rw [enclosing_eq_pruned ho.nested]
    simp [touchingBlocks, upperBlock, lowerBlock, Point.line, prefer, r₁, hm, hi]
  have h₂ : enclosing r₂ .scopes touchingBlocks = some lowerBlock := by
    rw [enclosing_eq_pruned ho.nested]
    simp [touchingBlocks, upperBlock, lowerBlock, Point.line, prefer, r₂, hm, hw]
  refine ⟨ho, h₁, h₂, ?_, by decide⟩
  obtain ⟨p₁, p₂, ⟨_, hn₁⟩, ⟨_, hn₂⟩, hsame | ⟨hb, _, ⟨hp, _⟩ | ⟨_, hle⟩⟩⟩ :=
    answers_same_or_apart ho .scopes r₁ r₂ h₁ h₂
  · have hne : upperBlock ≠ lowerBlock := by decide
    exact absurd (hn₁.symm.trans ((congrArg Placed.node hsame).trans hn₂)) hne
  · exact ⟨p₁, p₂, hn₁, hn₂, hb, hp⟩
  · exact absurd hle (by decide)

end Search

end EnclosingScope
