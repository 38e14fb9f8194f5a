import EnclosingScope.Proofs.Search.Pruned

namespace EnclosingScope

open EnclosingScope.Tree SyntaxNode

namespace Search

variable {ν : Type} [SyntaxNode ν] {r : LineRange} {kinds : KindSet}

def firstHit (r : LineRange) (kinds : KindSet) (node : ν) : Option ν :=
  if Qualifies r kinds node then some node
  else (children node).attach.findSome? fun ⟨child, _⟩ => firstHit r kinds child
termination_by node

theorem firstHit_eq (r : LineRange) (kinds : KindSet) (node : ν) :
    firstHit r kinds node =
      if Qualifies r kinds node then some node
      else (children node).findSome? (firstHit r kinds) := by
  rw [firstHit]
  congr 1
  exact List.findSome?_subtype (fun _ _ => rfl) |>.trans (by simp)

theorem findSome?_congr {α β : Type} {f g : α → Option β} {as : List α}
    (h : ∀ a ∈ as, f a = g a) : as.findSome? f = as.findSome? g := by
  induction as with
  | nil => rfl
  | cons a as ih =>
      have hrest := ih fun b hb => h b (List.mem_cons_of_mem _ hb)
      rw [List.findSome?_cons, List.findSome?_cons, h a List.mem_cons_self, hrest]

theorem firstHit_eq_find? (r : LineRange) (kinds : KindSet) (root : ν) :
    firstHit r kinds root = (preorder root).find? (qualifies r kinds) := by
  induction root using childrenInduction with
  | step root ih =>
      rw [firstHit_eq, preorder_eq_cons, List.find?_cons, descendants, List.find?_flatMap,
        findSome?_congr ih]
      by_cases hq : Qualifies r kinds root
      · rw [if_pos hq, qualifies_iff.2 hq]
      · have hn : qualifies r kinds root = false := by
          rw [← Bool.not_eq_true, qualifies_iff]
          exact hq
        rw [if_neg hq, hn]

-- One line may be shared by two nodes that are apart, two lines cannot be.
theorem not_qualifies_of_apart {earlier later : ν} (hr : r.start < r.stop)
    (hle : stop earlier ≤ start later) (he : Qualifies r kinds earlier) :
    ¬ Qualifies r kinds later := by
  intro hl
  have hline : stopLine earlier ≤ startLine later := Point.line_le_line hle
  have hback : r.stop ≤ r.start := by
    calc
      r.stop ≤ stopLine earlier := he.stops
      _ ≤ startLine later := hline
      _ ≤ r.start := hl.starts
  exact UInt64.not_le.2 hr hback

theorem not_qualifies_below_apart {left right node other : ν} (hr : r.start < r.stop)
    (hl : Ordered left) (hright : Ordered right) (hle : stop left ≤ start right)
    (hn : node ∈ preorder left) (ho : other ∈ preorder right) (hq : Qualifies r kinds node) :
    ¬ Qualifies r kinds other := by
  refine not_qualifies_of_apart hr ?_ hq
  calc
    stop node ≤ stop left := (hl.nested.bounds hn).2
    _ ≤ start right := hle
    _ ≤ start other := (hright.nested.bounds ho).1

theorem pairwise_below {root : ν} (h : Ordered root) (hr : r.start < r.stop)
    (kinds : KindSet) :
    (preorder root).Pairwise fun earlier later =>
      Qualifies r kinds earlier → Qualifies r kinds later → later ∈ descendants earlier := by
  refine h.below_or_apart.imp fun {earlier later} hcase he hl => ?_
  rcases hcase with hb | hle
  · exact hb
  · exact absurd hl (not_qualifies_of_apart hr hle he)

theorem firstHit_best {root : ν} (h : Ordered root) (hr : r.start < r.stop) :
    Best r kinds (preorder root) (firstHit r kinds root) := by
  rw [firstHit_eq_find?]
  cases hf : (preorder root).find? (qualifies r kinds) with
  | none =>
      intro node hn hq
      exact List.find?_eq_none.1 hf node hn (qualifies_iff.2 hq)
  | some node =>
      obtain ⟨hq, before, after, hs, hbefore⟩ := List.find?_eq_some_iff_append.1 hf
      have hn : node ∈ preorder root := by simp [hs]
      refine ⟨before, after, hs, qualifies_iff.1 hq, fun other ho hqo => ?_,
        fun other ho hqo => ?_⟩
      · have hnot := hbefore other ho
        rw [qualifies_iff.2 hqo] at hnot
        cases hnot
      · have hpair := pairwise_below h hr kinds
        rw [hs, List.pairwise_append, List.pairwise_cons] at hpair
        have hb := hpair.2.1.1 other ho (qualifies_iff.1 hq) hqo
        exact span_le_of_nested (h.nested.of_mem hn) (mem_preorder_of_descendant hb)

theorem enclosing_eq_firstHit {root : ν} (h : Ordered root) (hr : r.start < r.stop)
    (kinds : KindSet) : enclosing r kinds root = firstHit r kinds root :=
  enclosing_eq_iff.2 (firstHit_best h hr)

inductive Branch : ν → List ν → Prop
  | leaf {node : ν} (none : children node = []) : Branch node [node]
  | step {node child : ν} {rest : List ν} (mem : child ∈ children node)
      (below : Branch child rest) : Branch node (node :: rest)

theorem Branch.exists (node : ν) : ∃ branch, Branch node branch := by
  induction node using childrenInduction with
  | step node ih =>
      cases hc : children node with
      | nil => exact ⟨[node], .leaf hc⟩
      | cons child others =>
          have hm : child ∈ children node := by simp [hc]
          obtain ⟨branch, hb⟩ := ih child hm
          exact ⟨node :: branch, .step hm hb⟩

theorem child_eq_of_qualifies {root child other : ν} (h : Ordered root) (hr : r.start < r.stop)
    (hc : child ∈ children root) (ho : other ∈ children root) {below : ν}
    (hb : below ∈ preorder child) (hq : Qualifies r kinds below) {node : ν}
    (hn : node ∈ preorder other) (hqn : Qualifies r kinds node) : other = child := by
  obtain ⟨before, after, hs⟩ := List.append_of_mem hc
  have hpair := h.siblings_pairwise
  rw [hs, List.pairwise_append, List.pairwise_cons] at hpair
  have hordered := h.of_child hc
  have hordered' := h.of_child ho
  rw [hs, List.mem_append, List.mem_cons] at ho
  rcases ho with ho | ho | ho
  · have hle := hpair.2.2 other ho child List.mem_cons_self
    exact absurd hq (not_qualifies_below_apart hr hordered' hordered hle hn hb hqn)
  · exact ho
  · have hle := hpair.2.1.1 other ho
    exact absurd hqn (not_qualifies_below_apart hr hordered hordered' hle hb hn hq)

theorem qualifying_on_branch {root : ν} (h : Ordered root) (hr : r.start < r.stop)
    (kinds : KindSet) :
    ∃ branch, Branch root branch ∧
      ∀ node ∈ preorder root, Qualifies r kinds node → node ∈ branch := by
  induction root using childrenInduction with
  | step root ih =>
      by_cases hbelow : ∃ child ∈ children root, ∃ below ∈ preorder child, Qualifies r kinds below
      · obtain ⟨child, hc, below, hb, hq⟩ := hbelow
        obtain ⟨branch, hbranch, hall⟩ := ih child hc (h.of_child hc)
        refine ⟨root :: branch, .step hc hbranch, fun node hn hqn => ?_⟩
        rcases mem_preorder.1 hn with rfl | ⟨other, ho, hn⟩
        · exact List.mem_cons_self
        · have hsame := child_eq_of_qualifies h hr hc ho hb hq hn hqn
          exact List.mem_cons_of_mem _ (hall node (hsame ▸ hn) hqn)
      · obtain ⟨branch, hbranch⟩ := Branch.exists root
        refine ⟨branch, hbranch, fun node hn hqn => ?_⟩
        rcases mem_preorder.1 hn with rfl | ⟨child, hc, hn⟩
        · cases hbranch <;> exact List.mem_cons_self
        · exact absurd ⟨child, hc, node, hn, hqn⟩ hbelow

theorem first_hit_is_answer {root : ν} (h : Ordered root) (hr : r.start < r.stop)
    (kinds : KindSet) :
    (∃ branch, Branch (Placed.root root) branch ∧
      ∀ place ∈ preorder (Placed.root root), Qualifies r kinds place → place ∈ branch) ∧
    enclosing r kinds root = (preorder root).find? (qualifies r kinds) ∧
    enclosing r kinds root = firstHit r kinds root ∧
    enclosingPlace r kinds root = firstHit r kinds (Placed.root root) := by
  have hplaced : Ordered (Placed.root root) := .of_map Placed.keeps_node h
  refine ⟨qualifying_on_branch hplaced hr kinds, ?_, enclosing_eq_firstHit h hr kinds,
    enclosing_eq_firstHit hplaced hr kinds⟩
  rw [enclosing_eq_firstHit h hr, firstHit_eq_find?]

def innerBlock : SyntaxTree :=
  .node "try_statement" ⟨1, 5⟩ ⟨3, 8⟩ false []

def outerBlock : SyntaxTree :=
  .node "with_statement" ⟨1, 0⟩ ⟨3, 8⟩ false [innerBlock]

def nextBlock : SyntaxTree :=
  .node "if_statement" ⟨3, 8⟩ ⟨8, 2⟩ false []

def joinedBlocks : SyntaxTree :=
  .node "module" ⟨0, 0⟩ ⟨9, 0⟩ false [outerBlock, nextBlock]

theorem joinedBlocks_preorder :
    preorder joinedBlocks = [joinedBlocks, outerBlock, innerBlock, nextBlock] := by
  simp [joinedBlocks, outerBlock, innerBlock, nextBlock, preorder_eq]

theorem joinedBlocks_first_hit :
    let r : LineRange := ⟨2, 4, by decide, by decide⟩
    Ordered joinedBlocks ∧ r.start < r.stop ∧
      (preorder joinedBlocks).filter (qualifies r .scopes) = [outerBlock, innerBlock] ∧
      enclosing r .scopes joinedBlocks = some outerBlock ∧
      (∃ branch, Branch (Placed.root joinedBlocks) branch ∧ ∀ place ∈
        preorder (Placed.root joinedBlocks), Qualifies r .scopes place → place ∈ branch) := by
  intro r
  have ho : Ordered joinedBlocks := by
    simp [joinedBlocks, outerBlock, innerBlock, nextBlock, Point.le_iff]
  have hr : r.start < r.stop := by decide
  obtain ⟨hbranch, hfind, -, -⟩ := first_hit_is_answer ho hr .scopes
  rw [hfind, joinedBlocks_preorder]
  exact ⟨ho, hr, by decide +kernel, by decide +kernel, hbranch⟩

end Search

end EnclosingScope
