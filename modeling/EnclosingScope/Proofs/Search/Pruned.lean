import EnclosingScope.Proofs.Search.Largest
import EnclosingScope.Proofs.Tree.Nesting
import EnclosingScope.Tree.SyntaxTree

namespace EnclosingScope

open EnclosingScope.Tree SyntaxNode

namespace Search

variable {ν : Type} [SyntaxNode ν] {r : LineRange} {kinds : KindSet}

def pruned (r : LineRange) (kinds : KindSet) (node : ν) : Option ν :=
  if startLine node ≤ r.start ∧ r.stop ≤ stopLine node then
    if kind node ∈ kinds then some node
    else
      (children node).attach.foldl (fun best ⟨child, _⟩ => prefer best (pruned r kinds child)) none
  else none
termination_by node

theorem pruned_eq (r : LineRange) (kinds : KindSet) (node : ν) :
    pruned r kinds node =
      if startLine node ≤ r.start ∧ r.stop ≤ stopLine node then
        if kind node ∈ kinds then some node
        else (children node).foldl (fun best child => prefer best (pruned r kinds child)) none
      else none := by
  rw [pruned]
  congr 2
  exact List.foldl_subtype (g := fun best child => prefer best (pruned r kinds child))
    (fun _ _ _ => rfl) |>.trans (by simp)

@[simp]
theorem pruned_node (r : LineRange) (kinds : KindSet) (kind : String) (start stop : Point)
    (isError : Bool) (children : List SyntaxTree) :
    pruned r kinds (SyntaxTree.node kind start stop isError children) =
      if start.line ≤ r.start ∧ r.stop ≤ stop.line then
        if kind ∈ kinds then some (SyntaxTree.node kind start stop isError children)
        else children.foldl (fun best child => prefer best (pruned r kinds child)) none
      else none :=
  pruned_eq ..

theorem not_qualifies_of_outside {root node : ν} (h : WellNested root)
    (hr : ¬ (startLine root ≤ r.start ∧ r.stop ≤ stopLine root)) (hn : node ∈ preorder root) :
    ¬ Qualifies r kinds node := by
  intro hq
  obtain ⟨hs, ht⟩ := h.lines hn
  exact hr ⟨UInt64.le_trans hs hq.starts, UInt64.le_trans hq.stops ht⟩

theorem span_le_of_nested {root node : ν} (h : WellNested root) (hn : node ∈ preorder root) :
    span node ≤ span root := by
  obtain ⟨hs, ht⟩ := h.lines hn
  rw [UInt64.le_iff_toNat_le] at hs ht
  rw [span, span]
  omega

theorem qualifies_of_descendant {root node : ν} (h : WellNested root)
    (hn : node ∈ descendants root) (hk : kind root ∈ kinds) (hq : Qualifies r kinds node) :
    Qualifies r kinds root := by
  obtain ⟨hs, ht⟩ := h.lines (mem_preorder_of_descendant hn)
  exact ⟨hk, UInt64.le_trans hs hq.starts, UInt64.le_trans hq.stops ht⟩

theorem Best.foldl_prefer {nodes : List ν} {best : Option ν} (h : Best r kinds nodes best)
    {find : ν → Option ν} {parts : List ν}
    (hp : ∀ part ∈ parts, Best r kinds (preorder part) (find part)) :
    Best r kinds (nodes ++ parts.flatMap preorder)
      (parts.foldl (fun best part => prefer best (find part)) best) := by
  induction parts generalizing nodes best with
  | nil => simpa using h
  | cons part parts ih =>
      have hh := h.append (hp part (by simp))
      simpa using ih hh fun other ho => hp other (List.mem_cons_of_mem _ ho)

theorem pruned_best {root : ν} (h : WellNested root) :
    Best r kinds (preorder root) (pruned r kinds root) := by
  induction root using childrenInduction with
  | step root ih =>
      rw [pruned_eq]
      split
      · next hr =>
          rw [preorder_eq_cons]
          split
          -- The root is no smaller than any node below it, and comes before them all.
          · next hk =>
              refine ⟨[], descendants root, rfl, ⟨hk, hr.1, hr.2⟩, by simp, fun other ho _ => ?_⟩
              exact span_le_of_nested h (mem_preorder_of_descendant ho)
          · next hk =>
              have hroot : Best r kinds [root] none := fun node hn hq =>
                hk (List.mem_singleton.1 hn ▸ hq.allowed)
              exact hroot.foldl_prefer fun child hc => ih child hc (h.of_child hc)
      · next hr => exact fun node hn => not_qualifies_of_outside h hr hn

-- With every node met once only, no allowed kind stands above the answer: a node above it would
-- hold the range as well, be no smaller and come first.
theorem FirstLargest.above_not_allowed {root answer above : ν} (hw : WellNested root)
    (hd : (preorder root).Nodup) (h : FirstLargest r kinds (preorder root) answer)
    (ha : above ∈ preorder root) (hb : answer ∈ descendants above) : kind above ∉ kinds := by
  intro hk
  have hq := qualifies_of_descendant (hw.of_mem ha) hb hk h.qualifies
  have hle := span_le_of_nested (hw.of_mem ha) (mem_preorder_of_descendant hb)
  obtain ⟨before, after, hs, _, hlt, _⟩ := h
  have hgt := hlt above (mem_before_of_descendant hd ha hb hs) hq
  omega

theorem enclosing_eq_pruned {root : ν} (h : WellNested root) (r : LineRange) (kinds : KindSet) :
    enclosing r kinds root = pruned r kinds root :=
  enclosing_eq_iff.2 (pruned_best h)

theorem enclosing_eq_none_of_outside {root : ν} (h : WellNested root)
    (hr : ¬ (startLine root ≤ r.start ∧ r.stop ≤ stopLine root)) :
    enclosing r kinds root = none :=
  enclosing_eq_iff.2 fun _ hn => not_qualifies_of_outside h hr hn

theorem above_enclosingPlace_not_allowed {root : ν} (h : WellNested root)
    {answer above : Placed ν} (he : enclosingPlace r kinds root = some answer)
    (ha : above ∈ preorder (Placed.root root)) (hb : answer ∈ descendants above) :
    kind above ∉ kinds :=
  FirstLargest.above_not_allowed (.of_map Placed.keeps_node h) (Placed.preorder_nodup _)
    (enclosing_eq_iff.1 he) ha hb

theorem pruning_keeps_answer {root : ν} (h : WellNested root) (r : LineRange) (kinds : KindSet) :
    enclosing r kinds root = pruned r kinds root ∧
    enclosingPlace r kinds root = pruned r kinds (Placed.root root) ∧
    (enclosingPlace r kinds root).map (·.node) = enclosing r kinds root ∧
    (∀ answer, enclosingPlace r kinds root = some answer →
      ∀ above ∈ preorder (Placed.root root), answer ∈ descendants above → kind above ∉ kinds) ∧
    (¬ (startLine root ≤ r.start ∧ r.stop ≤ stopLine root) → enclosing r kinds root = none) := by
  have hp : WellNested (Placed.root root) := .of_map Placed.keeps_node h
  refine ⟨enclosing_eq_pruned h r kinds, enclosing_eq_pruned hp r kinds,
    enclosingPlace_node r kinds root, ?_, ?_⟩
  · intro answer he above ha hb
    exact above_enclosingPlace_not_allowed h he ha hb
  · exact enclosing_eq_none_of_outside h

-- A block that begins and ends on the lines of the block around it.
def tiedBlocks : SyntaxTree :=
  .node "module" ⟨0, 0⟩ ⟨9, 0⟩ false
    [.node "with_statement" ⟨1, 0⟩ ⟨3, 8⟩ false
      [.node "try_statement" ⟨1, 5⟩ ⟨3, 8⟩ false []],
     .node "if_statement" ⟨4, 0⟩ ⟨8, 2⟩ false []]

theorem tiedBlocks_outer_is_found :
    let r : LineRange := ⟨2, 3, by decide, by decide⟩
    WellNested tiedBlocks ∧
      (enclosing r .scopes tiedBlocks).map kind = some "with_statement" := by
  intro r
  have hw : WellNested tiedBlocks := by simp [tiedBlocks, Point.le_iff]
  have hm : "module" ∉ KindSet.scopes := by decide +kernel
  have hs : "with_statement" ∈ KindSet.scopes := by decide +kernel
  refine ⟨hw, ?_⟩
  rw [(pruning_keeps_answer hw r .scopes).1]
  simp [tiedBlocks, Point.line, prefer, r, hm, hs]

end Search

end EnclosingScope
