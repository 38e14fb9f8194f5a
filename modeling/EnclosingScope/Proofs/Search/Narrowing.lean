import EnclosingScope.Proofs.Search.Largest
import EnclosingScope.Record

namespace EnclosingScope

open EnclosingScope.Tree SyntaxNode

namespace Search

variable {ν : Type} [SyntaxNode ν] {r r' : LineRange} {kinds kinds' : KindSet} {root node : ν}

theorem Qualifies.relax (h : Qualifies r' kinds' node) (hr : r ⊆ r') (hk : kinds' ⊆ kinds) :
    Qualifies r kinds node where
  allowed := hk (kind node) h.allowed
  starts := UInt64.le_trans h.starts hr.1
  stops := UInt64.le_trans hr.2 h.stops

theorem FirstLargest.narrow {nodes : List ν} (h : FirstLargest r kinds nodes node) (hr : r ⊆ r')
    (hk : kinds' ⊆ kinds) (hq : Qualifies r' kinds' node) :
    FirstLargest r' kinds' nodes node := by
  obtain ⟨before, after, hs, _, hb, ha⟩ := h
  refine ⟨before, after, hs, hq, fun other ho hqo => ?_, fun other ho hqo => ?_⟩
  · exact hb other ho (hqo.relax hr hk)
  · exact ha other ho (hqo.relax hr hk)

theorem span_le_of_relaxed (h : enclosing r' kinds' root = some node) (hr : r ⊆ r')
    (hk : kinds' ⊆ kinds) :
    ∃ larger, enclosing r kinds root = some larger ∧ span node ≤ span larger := by
  have hnode : FirstLargest r' kinds' (preorder root) node := enclosing_eq_iff.1 h
  have hq := hnode.qualifies.relax hr hk
  have hbest := enclosing_best r kinds root
  cases he : enclosing r kinds root with
  | none =>
      rw [he] at hbest
      exact absurd hq (hbest node hnode.mem)
  | some larger =>
      rw [he] at hbest
      exact ⟨larger, rfl, FirstLargest.span_le hbest hnode.mem hq⟩

theorem enclosing_narrow (h : enclosing r kinds root = some node) (hr : r ⊆ r')
    (hk : kinds' ⊆ kinds) (hq : Qualifies r' kinds' node) : enclosing r' kinds' root = some node :=
  enclosing_eq_iff.2 (FirstLargest.narrow (enclosing_eq_iff.1 h) hr hk hq)

theorem answer_narrow (h : enclosing r kinds root = some node) (hr : r ⊆ r')
    (hk : kinds' ⊆ kinds) (hq : Qualifies r' kinds' node) :
    enclosing r' kinds' root = some node ∧
      enclosingPlace r' kinds' root = enclosingPlace r kinds root := by
  refine ⟨enclosing_narrow h hr hk hq, ?_⟩
  obtain ⟨place, hp, rfl⟩ := enclosingPlace_exists h
  rw [hp]
  exact enclosing_narrow hp hr hk ((qualifies_map_iff Placed.keeps_node).1 hq)

def Qualifies.lines (h : Qualifies r kinds node) : LineRange where
  start := startLine node
  stop := stopLine node
  start_ne_zero := (start node).line_ne_zero
  start_le_stop := h.start_le_stop

theorem narrowing_keeps_answer (root : ν) (hr : r ⊆ r') (hk : kinds' ⊆ kinds) :
    (∀ node, enclosing r' kinds' root = some node →
      ∃ larger, enclosing r kinds root = some larger ∧ span node ≤ span larger) ∧
    ∀ node, enclosing r kinds root = some node →
      (kind node ∈ kinds' → r'.isWithin (startLine node) (stopLine node) = true →
        enclosing r' kinds' root = some node ∧
          enclosingPlace r' kinds' root = enclosingPlace r kinds root) ∧
      (∃ lines, LineRange.ofLines (NodeRecord.ofNode node).startLine
          (NodeRecord.ofNode node).stopLine = .ok lines ∧
        enclosing lines kinds root = some node ∧
          enclosingPlace lines kinds root = enclosingPlace r kinds root) ∧
      ∀ names, kind node ∉ names →
        enclosing r (kinds.eraseAll names) root = some node ∧
          enclosingPlace r (kinds.eraseAll names) root = enclosingPlace r kinds root := by
  refine ⟨fun node h => span_le_of_relaxed h hr hk, fun node h => ?_⟩
  have hq := enclosing_qualifies h
  refine ⟨fun hkind hlines => ?_, ?_, fun names hn => ?_⟩
  · obtain ⟨hs, ht⟩ := LineRange.isWithin_iff.1 hlines
    have hq' : Qualifies r' kinds' node := ⟨hkind, hs, ht⟩
    exact answer_narrow h hr hk hq'
  · have hsub : r ⊆ hq.lines := ⟨hq.starts, hq.stops⟩
    have hall : kinds ⊆ kinds := fun name hm => hm
    have hq' : Qualifies hq.lines kinds node :=
      ⟨hq.allowed, UInt64.le_refl _, UInt64.le_refl _⟩
    exact ⟨hq.lines, LineRange.ofLines_of_valid _ _, answer_narrow h hsub hall hq'⟩
  · have hsame : r ⊆ r := ⟨UInt64.le_refl _, UInt64.le_refl _⟩
    have hless := kinds.eraseAll_subset names
    have hq' : Qualifies r (kinds.eraseAll names) node :=
      ⟨KindSet.mem_eraseAll_of_not_mem hn hq.allowed, hq.starts, hq.stops⟩
    exact answer_narrow h hsame hless hq'

def slantedBlock : SyntaxTree :=
  .node "class_definition" ⟨1, 0⟩ ⟨9, 4⟩ false []

def narrowBlock : SyntaxTree :=
  .node "if_statement" ⟨3, 0⟩ ⟨8, 0⟩ false [slantedBlock]

def tiedBlock : SyntaxTree :=
  .node "function_definition" ⟨2, 0⟩ ⟨10, 0⟩ false []

def slantedBlocks : SyntaxTree :=
  .node "module" ⟨5, 0⟩ ⟨6, 0⟩ false [narrowBlock, tiedBlock]

theorem slantedBlocks_preorder :
    preorder slantedBlocks = [slantedBlocks, narrowBlock] ++ slantedBlock :: [tiedBlock] := by
  simp [slantedBlocks, narrowBlock, slantedBlock, tiedBlock, preorder_eq]

theorem slantedBlocks_keep_answer :
    let r : LineRange := ⟨5, 6, by decide, by decide⟩
    let r' : LineRange := ⟨4, 9, by decide, by decide⟩
    let kinds' := KindSet.scopes.eraseAll ["if_statement"]
    r ⊆ r' ∧ kinds' ⊆ KindSet.scopes ∧
      enclosing r .scopes slantedBlocks = some slantedBlock ∧
      enclosing r' kinds' slantedBlocks = some slantedBlock ∧
      enclosing ⟨2, 10, by decide, by decide⟩ .scopes slantedBlocks = some slantedBlock ∧
      enclosing r (KindSet.scopes.eraseAll ["function_definition"]) slantedBlocks =
        some slantedBlock := by
  intro r r' kinds'
  have hr : r ⊆ r' := by decide
  have hk : kinds' ⊆ KindSet.scopes := KindSet.eraseAll_subset _ _
  have hc : "class_definition" ∈ KindSet.scopes := by decide +kernel
  have h : enclosing r .scopes slantedBlocks = some slantedBlock := by
    have hb : ∀ other ∈ [slantedBlocks, narrowBlock], span other < span slantedBlock := by decide
    have ha : ∀ other ∈ [tiedBlock], span other ≤ span slantedBlock := by decide
    refine enclosing_eq_iff.2 ⟨_, _, slantedBlocks_preorder, ⟨hc, by decide, by decide⟩, ?_, ?_⟩
    · exact fun other ho _ => hb other ho
    · exact fun other ho _ => ha other ho
  obtain ⟨hrepeat, ⟨lines, hl, hlines, -⟩, hless⟩ :=
    (narrowing_keeps_answer slantedBlocks hr hk).2 slantedBlock h
  have hkind : kind slantedBlock ∈ kinds' := KindSet.mem_eraseAll_of_not_mem (by decide) hc
  refine ⟨hr, hk, h, (hrepeat hkind (by decide)).1, ?_, (hless _ (by decide)).1⟩
  rw [← hlines]
  cases hl
  rfl

end Search

end EnclosingScope
