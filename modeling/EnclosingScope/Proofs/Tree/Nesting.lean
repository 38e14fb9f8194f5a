import EnclosingScope.Proofs.Tree.Traversal
import Mathlib.Data.List.Chain

namespace EnclosingScope.Tree

namespace Point

variable {p q s : Point}

theorem le_iff_toNat :
    p ≤ q ↔ p.row.toNat < q.row.toNat ∨
      (p.row.toNat = q.row.toNat ∧ p.column.toNat ≤ q.column.toNat) := by
  rw [le_iff, UInt64.lt_iff_toNat_lt, UInt64.le_iff_toNat_le, ← UInt64.toNat_inj]

theorem le_refl (p : Point) : p ≤ p :=
  le_iff_toNat.2 (.inr ⟨rfl, Nat.le_refl _⟩)

theorem le_trans (h : p ≤ q) (h' : q ≤ s) : p ≤ s := by
  rw [le_iff_toNat] at *
  omega

instance : Trans (α := Point) (· ≤ ·) (· ≤ ·) (· ≤ ·) := ⟨le_trans⟩

theorem line_le_line (h : p ≤ q) : p.line ≤ q.line := by
  rw [UInt64.le_iff_toNat_le, line_toNat, line_toNat]
  rw [le_iff_toNat] at h
  omega

end Point

namespace SyntaxNode

variable {ν μ : Type} [SyntaxNode ν] [SyntaxNode μ]

def WellNested (root : ν) : Prop :=
  ∀ node ∈ preorder root, ∀ child ∈ children node,
    start node ≤ start child ∧ stop child ≤ stop node

structure Ordered (root : ν) : Prop where
  nested : WellNested root
  start_le_stop : ∀ node ∈ preorder root, start node ≤ stop node
  siblings : ∀ node ∈ preorder root,
    (children node).IsChain fun left right => stop left ≤ start right

def Precedes (root earlier later : ν) : Prop :=
  [earlier, later].Sublist (preorder root)

theorem precedes_or_precedes {root node other : ν} (hn : node ∈ preorder root)
    (ho : other ∈ preorder root) (hne : node ≠ other) :
    Precedes root node other ∨ Precedes root other node := by
  obtain ⟨before, after, hs⟩ := List.append_of_mem hn
  rw [Precedes, Precedes, hs]
  rw [hs, List.mem_append, List.mem_cons] at ho
  rcases ho with ho | ho | ho
  · exact .inr ((List.singleton_sublist.2 ho).append (List.singleton_sublist.2 (by simp)))
  · exact absurd ho.symm hne
  · exact .inl (((List.singleton_sublist.2 ho).cons_cons node).trans (List.sublist_append_right ..))

namespace WellNested

variable {root node : ν}

theorem of_mem (h : WellNested root) (hn : node ∈ preorder root) : WellNested node :=
  fun below hb => h below (preorder_trans hn hb)

theorem of_child {child : ν} (h : WellNested root) (hc : child ∈ children root) :
    WellNested child :=
  h.of_mem (mem_preorder_of_child hc)

theorem bounds (h : WellNested root) (hn : node ∈ preorder root) :
    start root ≤ start node ∧ stop node ≤ stop root := by
  induction root using childrenInduction with
  | step root ih =>
      rcases mem_preorder.1 hn with rfl | ⟨child, hc, hn⟩
      · exact ⟨Point.le_refl _, Point.le_refl _⟩
      · obtain ⟨hs, ht⟩ := h root (mem_preorder_self root) child hc
        obtain ⟨hs', ht'⟩ := ih child hc (h.of_child hc) hn
        exact ⟨Point.le_trans hs hs', Point.le_trans ht' ht⟩

theorem lines (h : WellNested root) (hn : node ∈ preorder root) :
    startLine root ≤ startLine node ∧ stopLine node ≤ stopLine root :=
  ⟨Point.line_le_line (h.bounds hn).1, Point.line_le_line (h.bounds hn).2⟩

theorem of_map {f : ν → μ} (hf : Keeps f) (h : WellNested (f root)) : WellNested root := by
  intro node hn child hc
  have hb := h (f node) (hf.mem_preorder hn) (f child) (hf.mem_children hc)
  rwa [hf.start, hf.start, hf.stop, hf.stop] at hb

end WellNested

theorem wellNested_iff {root : ν} :
    WellNested root ↔ ∀ child ∈ children root,
      (start root ≤ start child ∧ stop child ≤ stop root) ∧ WellNested child := by
  constructor
  · intro h child hc
    exact ⟨h root (mem_preorder_self root) child hc, h.of_child hc⟩
  · intro h node hn child hc
    rcases mem_preorder.1 hn with rfl | ⟨below, hb, hn⟩
    · exact (h child hc).1
    · exact (h below hb).2 node hn child hc

@[simp]
theorem wellNested_node (kind : String) (start stop : Point) (isError : Bool)
    (children : List SyntaxTree) :
    WellNested (SyntaxTree.node kind start stop isError children) ↔ ∀ child ∈ children,
      (start ≤ SyntaxNode.start child ∧ SyntaxNode.stop child ≤ stop) ∧ WellNested child :=
  wellNested_iff

namespace Ordered

variable {root node : ν}

theorem of_mem (h : Ordered root) (hn : node ∈ preorder root) : Ordered node where
  nested := h.nested.of_mem hn
  start_le_stop below hb := h.start_le_stop below (preorder_trans hn hb)
  siblings below hb := h.siblings below (preorder_trans hn hb)

theorem of_child {child : ν} (h : Ordered root) (hc : child ∈ children root) : Ordered child :=
  h.of_mem (mem_preorder_of_child hc)

theorem of_map {f : ν → μ} (hf : Keeps f) (h : Ordered (f root)) : Ordered root := by
  refine ⟨.of_map hf h.nested, fun node hn => ?_, fun node hn => ?_⟩
  · have hle := h.start_le_stop (f node) (hf.mem_preorder hn)
    rwa [hf.start, hf.stop] at hle
  · have hs := h.siblings (f node) (hf.mem_preorder hn)
    simpa only [hf.children, List.isChain_map, hf.start, hf.stop] using hs

theorem iff_children :
    Ordered root ↔ start root ≤ stop root ∧
      ((children root).IsChain fun left right => stop left ≤ start right) ∧
      ∀ child ∈ children root,
        (start root ≤ start child ∧ stop child ≤ stop root) ∧ Ordered child := by
  have hself := mem_preorder_self root
  constructor
  · intro h
    refine ⟨h.start_le_stop root hself, h.siblings root hself, fun child hc => ?_⟩
    exact ⟨h.nested root hself child hc, h.of_child hc⟩
  · rintro ⟨hle, hsib, hc⟩
    refine ⟨?_, fun node hn => ?_, fun node hn => ?_⟩
    · exact wellNested_iff.2 fun child hm => ⟨(hc child hm).1, (hc child hm).2.nested⟩
    · rcases mem_preorder.1 hn with rfl | ⟨child, hm, hn⟩
      · exact hle
      · exact (hc child hm).2.start_le_stop node hn
    · rcases mem_preorder.1 hn with rfl | ⟨child, hm, hn⟩
      · exact hsib
      · exact (hc child hm).2.siblings node hn

theorem siblings_pairwise (h : Ordered root) :
    (children root).Pairwise fun left right => stop left ≤ start right := by
  have hle : ∀ child ∈ children root, start child ≤ stop child := fun child hc =>
    (h.of_child hc).start_le_stop child (mem_preorder_self child)
  have hchain := h.siblings root (mem_preorder_self root)
  generalize children root = nodes at hle hchain
  induction hchain with
  | nil => exact .nil
  | singleton node => exact List.pairwise_singleton ..
  | @cons_cons left right rest hlr _ ih =>
      -- The relation is not transitive of itself: it is so among nodes that stop after their start.
      have hrest := ih fun child hc => hle child (List.mem_cons_of_mem _ hc)
      refine List.pairwise_cons.2 ⟨fun child hc => ?_, hrest⟩
      rcases List.mem_cons.1 hc with rfl | hc
      · exact hlr
      · calc
          stop left ≤ start right := hlr
          _ ≤ stop right := hle right (by simp)
          _ ≤ start child := (List.pairwise_cons.1 hrest).1 child hc

theorem below_or_apart (h : Ordered root) :
    (preorder root).Pairwise fun earlier later =>
      later ∈ descendants earlier ∨ stop earlier ≤ start later := by
  induction root using childrenInduction with
  | step root ih =>
      rw [preorder_eq_cons, List.pairwise_cons]
      refine ⟨fun below hb => .inl hb, List.pairwise_flatMap.2 ⟨fun child hc => ?_, ?_⟩⟩
      · exact ih child hc (h.of_child hc)
      -- Below different children nothing reaches past the gap between these two.
      · refine h.siblings_pairwise.imp_of_mem fun {left right} hl hr hlr => ?_
        intro earlier he later hb
        right
        calc
          stop earlier ≤ stop left := ((h.of_child hl).nested.bounds he).2
          _ ≤ start right := hlr
          _ ≤ start later := ((h.of_child hr).nested.bounds hb).1

theorem starts_pairwise (h : Ordered root) :
    (preorder root).Pairwise fun earlier later => start earlier ≤ start later := by
  refine h.below_or_apart.imp_of_mem fun {earlier later} he _ hor => ?_
  rcases hor with hb | hle
  · exact ((h.nested.of_mem he).bounds (mem_preorder_of_descendant hb)).1
  · calc
      start earlier ≤ stop earlier := h.start_le_stop earlier he
      _ ≤ start later := hle

theorem above_or_apart (h : Ordered root) {other : ν} (hn : node ∈ preorder root)
    (ho : other ∈ preorder root) (hne : node ≠ other) :
    other ∈ descendants node ∨ node ∈ descendants other ∨
      (Precedes root node other ∧ stop node ≤ start other) ∨
      (Precedes root other node ∧ stop other ≤ start node) := by
  rcases precedes_or_precedes hn ho hne with hp | hp
  · rcases h.below_or_apart.forall_sublist hp with hb | hle
    · exact .inl hb
    · exact .inr (.inr (.inl ⟨hp, hle⟩))
  · rcases h.below_or_apart.forall_sublist hp with hb | hle
    · exact .inr (.inl hb)
    · exact .inr (.inr (.inr ⟨hp, hle⟩))

end Ordered

@[simp]
theorem ordered_node (kind : String) (start stop : Point) (isError : Bool)
    (children : List SyntaxTree) :
    Ordered (SyntaxTree.node kind start stop isError children) ↔ start ≤ stop ∧
      (children.IsChain fun left right => SyntaxNode.stop left ≤ SyntaxNode.start right) ∧
      ∀ child ∈ children,
        (start ≤ SyntaxNode.start child ∧ SyntaxNode.stop child ≤ stop) ∧ Ordered child :=
  Ordered.iff_children

end SyntaxNode

end EnclosingScope.Tree
