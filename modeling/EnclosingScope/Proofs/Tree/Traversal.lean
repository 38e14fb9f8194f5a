import EnclosingScope.Tree.SyntaxTree
import Mathlib.Data.List.Nodup

namespace EnclosingScope.Tree

namespace SyntaxNode

variable {ν μ : Type} [SyntaxNode ν] [SyntaxNode μ]

@[elab_as_elim]
theorem childrenInduction {motive : ν → Prop} (node : ν)
    (step : ∀ node, (∀ child ∈ children node, motive child) → motive node) : motive node :=
  descent.induction node step

def descendants (node : ν) : List ν :=
  (children node).flatMap preorder

theorem preorder_eq_cons (node : ν) : preorder node = node :: descendants node :=
  preorder_eq node

theorem mem_descendants {node below : ν} :
    below ∈ descendants node ↔ ∃ child ∈ children node, below ∈ preorder child :=
  List.mem_flatMap

theorem mem_preorder {node other : ν} :
    other ∈ preorder node ↔ other = node ∨ ∃ child ∈ children node, other ∈ preorder child := by
  rw [preorder_eq_cons, List.mem_cons, mem_descendants]

theorem preorder_infix_of_child {node child : ν} (h : child ∈ children node) :
    preorder child <:+: descendants node := by
  rw [descendants, List.flatMap]
  exact List.infix_of_mem_flatten (List.mem_map_of_mem h)

theorem preorder_infix_of_mem {root node : ν} (h : node ∈ preorder root) :
    preorder node <:+: preorder root := by
  induction root using childrenInduction with
  | step root ih =>
      rcases mem_preorder.1 h with rfl | ⟨child, hc, hn⟩
      · exact List.infix_rfl
      · have hr : descendants root <:+: preorder root := by
          rw [preorder_eq_cons]
          exact (List.suffix_cons ..).isInfix
        exact ((ih child hc hn).trans (preorder_infix_of_child hc)).trans hr

theorem preorder_trans {root node below : ν} (hn : node ∈ preorder root)
    (hb : below ∈ preorder node) : below ∈ preorder root :=
  (preorder_infix_of_mem hn).subset hb

theorem mem_preorder_of_child {node child : ν} (h : child ∈ children node) :
    child ∈ preorder node :=
  mem_preorder.2 (.inr ⟨child, h, mem_preorder_self child⟩)

theorem mem_preorder_of_descendant {node below : ν} (h : below ∈ descendants node) :
    below ∈ preorder node := by
  rw [preorder_eq_cons]
  exact List.mem_cons_of_mem _ h

theorem preorder_split_descendant {root node below : ν} (hn : node ∈ preorder root)
    (hb : below ∈ descendants node) :
    ∃ before between after, preorder root = before ++ node :: between ++ below :: after := by
  obtain ⟨before, after, hr⟩ := preorder_infix_of_mem hn
  obtain ⟨between, rest, hd⟩ := List.append_of_mem hb
  refine ⟨before, between, rest ++ after, ?_⟩
  rw [← hr, preorder_eq_cons, hd]
  simp

theorem mem_before_of_descendant {root node below : ν} {before after : List ν}
    (hd : (preorder root).Nodup) (hn : node ∈ preorder root) (hb : below ∈ descendants node)
    (hs : preorder root = before ++ below :: after) : node ∈ before := by
  obtain ⟨first, between, rest, hs'⟩ := preorder_split_descendant hn hb
  rw [hs, List.nodup_middle, List.nodup_cons, List.mem_append, not_or] at hd
  have hsame := (List.append_cons_inj_of_notMem hd.1.1 hd.1.2).1 (hs ▸ hs')
  rw [hsame.1]
  simp

-- A map under which nothing that a search or a check looks at is changed.
structure Keeps (f : ν → μ) : Prop where
  kind : ∀ node, SyntaxNode.kind (f node) = SyntaxNode.kind node
  start : ∀ node, SyntaxNode.start (f node) = SyntaxNode.start node
  stop : ∀ node, SyntaxNode.stop (f node) = SyntaxNode.stop node
  marksError : ∀ node, SyntaxNode.marksError (f node) = SyntaxNode.marksError node
  children : ∀ node, SyntaxNode.children (f node) = (SyntaxNode.children node).map f

namespace Keeps

variable {f : ν → μ}

theorem preorder (h : Keeps f) (node : ν) :
    SyntaxNode.preorder (f node) = (SyntaxNode.preorder node).map f := by
  induction node using childrenInduction with
  | step node ih =>
      have hc : (SyntaxNode.children node).flatMap (SyntaxNode.preorder ∘ f) =
          (SyntaxNode.children node).flatMap fun child => (SyntaxNode.preorder child).map f :=
        List.flatMap_congr ih
      rw [preorder_eq, preorder_eq, h.children, List.map_cons, List.flatMap_map, List.map_flatMap]
      exact congrArg _ hc

theorem mem_preorder (h : Keeps f) {root node : ν} (hn : node ∈ SyntaxNode.preorder root) :
    f node ∈ SyntaxNode.preorder (f root) := by
  rw [h.preorder]
  exact List.mem_map_of_mem hn

theorem mem_children (h : Keeps f) {node child : ν} (hc : child ∈ SyntaxNode.children node) :
    f child ∈ SyntaxNode.children (f node) := by
  rw [h.children]
  exact List.mem_map_of_mem hc

theorem startLine (h : Keeps f) (node : ν) :
    SyntaxNode.startLine (f node) = SyntaxNode.startLine node := by
  rw [SyntaxNode.startLine, h.start, ← SyntaxNode.startLine]

theorem stopLine (h : Keeps f) (node : ν) :
    SyntaxNode.stopLine (f node) = SyntaxNode.stopLine node := by
  rw [SyntaxNode.stopLine, h.stop, ← SyntaxNode.stopLine]

end Keeps

section Concrete

variable (kind : String) (start stop : Point) (isError : Bool) (children : List SyntaxTree)

@[simp]
theorem kind_node : SyntaxNode.kind (SyntaxTree.node kind start stop isError children) = kind := rfl

@[simp]
theorem start_node :
    SyntaxNode.start (SyntaxTree.node kind start stop isError children) = start := rfl

@[simp]
theorem stop_node : SyntaxNode.stop (SyntaxTree.node kind start stop isError children) = stop := rfl

@[simp]
theorem children_node :
    SyntaxNode.children (SyntaxTree.node kind start stop isError children) = children := rfl

end Concrete

end SyntaxNode

open SyntaxNode

structure Placed (ν : Type) where
  path : List Nat
  node : ν
  deriving DecidableEq, Repr

namespace Placed

variable {ν : Type} [SyntaxNode ν]

def root (node : ν) : Placed ν := ⟨[], node⟩

def children (p : Placed ν) : List (Placed ν) :=
  (SyntaxNode.children p.node).mapIdx fun i child => ⟨p.path ++ [i], child⟩

theorem map_node_children (p : Placed ν) :
    p.children.map (·.node) = SyntaxNode.children p.node := by
  refine List.ext_getElem (by simp [children]) fun i _ _ => ?_
  simp [children]

theorem node_mem_children {p child : Placed ν} (h : child ∈ p.children) :
    child.node ∈ SyntaxNode.children p.node := by
  rw [← map_node_children]
  exact List.mem_map_of_mem h

instance : SyntaxNode (Placed ν) where
  kind p := SyntaxNode.kind p.node
  start p := SyntaxNode.start p.node
  stop p := SyntaxNode.stop p.node
  children := children
  marksError p := SyntaxNode.marksError p.node
  descent := Subrelation.wf node_mem_children (InvImage.wf Placed.node SyntaxNode.descent)

theorem keeps_node : Keeps (Placed.node : Placed ν → ν) where
  kind _ := rfl
  start _ := rfl
  stop _ := rfl
  marksError _ := rfl
  children p := (map_node_children p).symm

theorem mem_children {p child : Placed ν} (h : child ∈ SyntaxNode.children p) :
    ∃ i, child.path = p.path ++ [i] := by
  obtain ⟨i, _, rfl⟩ := List.mem_mapIdx.1 h
  exact ⟨i, rfl⟩

theorem path_prefix_of_mem {p below : Placed ν} (h : below ∈ preorder p) :
    p.path <+: below.path := by
  induction p using childrenInduction with
  | step p ih =>
      rcases mem_preorder.1 h with rfl | ⟨child, hc, hb⟩
      · exact List.prefix_rfl
      · obtain ⟨i, hi⟩ := mem_children hc
        exact (hi ▸ List.prefix_append ..).trans (ih child hc hb)

theorem not_mem_descendants_self (p : Placed ν) : p ∉ descendants p := by
  intro h
  obtain ⟨child, hc, hp⟩ := mem_descendants.1 h
  obtain ⟨i, hi⟩ := mem_children hc
  have hl := (path_prefix_of_mem hp).length_le
  rw [hi, List.length_append, List.length_singleton] at hl
  omega

theorem children_disjoint (p : Placed ν) :
    (SyntaxNode.children p).Pairwise fun a b => List.Disjoint (preorder a) (preorder b) := by
  rw [List.pairwise_iff_getElem]
  intro i j hi hj hij q hqi hqj
  -- The paths below two children of one node part at that node.
  have hpi := path_prefix_of_mem hqi
  have hpj := path_prefix_of_mem hqj
  simp only [SyntaxNode.children, children, List.getElem_mapIdx] at hpi hpj
  have heq := List.prefix_of_prefix_length_le hpi hpj (by simp)
  simp only [List.prefix_append_right_inj, List.cons_prefix_cons] at heq
  omega

theorem preorder_nodup (p : Placed ν) : (preorder p).Nodup := by
  induction p using childrenInduction with
  | step p ih =>
      rw [preorder_eq_cons, List.nodup_cons]
      exact ⟨not_mem_descendants_self p, List.nodup_flatMap.2 ⟨ih, children_disjoint p⟩⟩

end Placed

end EnclosingScope.Tree
