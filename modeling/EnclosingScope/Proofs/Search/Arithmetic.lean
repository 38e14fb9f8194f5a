import EnclosingScope.Proofs.Search.Largest
import EnclosingScope.Record

namespace EnclosingScope

open EnclosingScope.Tree SyntaxNode

inductive Overflow where
  | sum (a b : UInt64)
  | difference (a b : Nat)
  deriving DecidableEq, Repr

structure Arithmetic (α : Type) where
  line : Point → Except Overflow α
  difference : α → α → Except Overflow α
  ofLine : UInt64 → α

namespace Arithmetic

def sum (a b : UInt64) : Except Overflow UInt64 :=
  if a.toNat + b.toNat < 18446744073709551616 then .ok (a + b) else .error (.sum a b)

def words : Arithmetic UInt64 where
  line p := if p.row = 18446744073709551615 then .ok p.row else sum p.row 1
  difference a b := if b ≤ a then .ok (a - b) else .error (.difference a.toNat b.toNat)
  ofLine n := n

def naturals : Arithmetic Nat where
  line p := .ok (p.row.toNat + 1)
  difference a b := if b ≤ a then .ok (a - b) else .error (.difference a b)
  ofLine n := n.toNat

variable {α : Type} [LE α] [LT α]

structure Extends (A : Arithmetic α) (f : UInt64 → α) : Prop where
  ofLine : ∀ n, A.ofLine n = f n
  le_iff : ∀ a b, f a ≤ f b ↔ a ≤ b
  lt_iff : ∀ a b, f a < f b ↔ a < b
  difference : ∀ a b, b ≤ a → A.difference (f a) (f b) = .ok (f (a - b))

theorem words_extends : words.Extends id where
  ofLine _ := rfl
  le_iff _ _ := Iff.rfl
  lt_iff _ _ := Iff.rfl
  difference _ _ h := if_pos h

theorem naturals_extends : naturals.Extends UInt64.toNat where
  ofLine _ := rfl
  le_iff _ _ := UInt64.le_iff_toNat_le.symm
  lt_iff _ _ := UInt64.lt_iff_toNat_lt.symm
  difference a b h := by
    rw [UInt64.toNat_sub_of_le a b h]
    exact if_pos (UInt64.le_iff_toNat_le.1 h)

theorem words_line (p : Point) : words.line p = .ok p.line := by
  have hb := p.row.toNat_lt
  simp only [words, Point.line]
  split
  · rfl
  · next h =>
      have hne : p.row.toNat ≠ 18446744073709551615 := fun e => h (UInt64.toNat_inj.1 e)
      refine if_pos ?_
      rw [UInt64.toNat_one]
      omega

theorem naturals_line {p : Point} (h : p.row ≠ 18446744073709551615) :
    naturals.line p = .ok p.line.toNat := by
  have hb := p.row.toNat_lt
  have hne : p.row.toNat ≠ 18446744073709551615 := fun e => h (UInt64.toNat_inj.1 e)
  have hline : p.line.toNat = p.row.toNat + 1 := by
    rw [p.line_toNat]
    omega
  rw [naturals, hline]

def Counts {ν : Type} [SyntaxNode ν] (A : Arithmetic α) (f : UInt64 → α) (root : ν) : Prop :=
  ∀ node ∈ preorder root,
    A.line (start node) = .ok (f (startLine node)) ∧ A.line (stop node) = .ok (f (stopLine node))

end Arithmetic

namespace Search

open Arithmetic

section Generic

variable {α : Type} [LE α] [LT α] [DecidableLE α] [DecidableLT α]
variable {ν : Type} [SyntaxNode ν] {r : LineRange} {kinds : KindSet}

def considerIn (A : Arithmetic α) (r : LineRange) (kinds : KindSet) (node : ν)
    (best : Option (α × ν)) : Except Overflow (Option (α × ν)) := do
  if kinds.contains (kind node) then
    let first ← A.line (start node)
    let last ← A.line (stop node)
    if first ≤ A.ofLine r.start ∧ A.ofLine r.stop ≤ last then
      let size ← A.difference last first
      match best with
      | none => return some (size, node)
      | some current => return if current.1 < size then some (size, node) else best
    else return best
  else return best

def exploreIn (A : Arithmetic α) (r : LineRange) (kinds : KindSet) (node : ν)
    (best : Option (α × ν)) : Except Overflow (Option (α × ν)) := do
  let best ← considerIn A r kinds node best
  (children node).attach.foldlM (fun best ⟨child, _⟩ => exploreIn A r kinds child best) best
termination_by node

theorem exploreIn_eq (A : Arithmetic α) (r : LineRange) (kinds : KindSet) (node : ν)
    (best : Option (α × ν)) :
    exploreIn A r kinds node best = (considerIn A r kinds node best >>= fun best =>
      (children node).foldlM (fun best child => exploreIn A r kinds child best) best) := by
  rw [exploreIn]
  congr 1
  funext best
  exact List.foldlM_subtype (fun _ _ _ => rfl) |>.trans (by simp)

def enclosingIn (A : Arithmetic α) (r : LineRange) (kinds : KindSet) (root : ν) :
    Except Overflow (Option ν) :=
  (exploreIn A r kinds root none).map fun best => best.map (·.2)

def sized (f : UInt64 → α) (c : Candidate ν) : α × ν := (f c.size, c.node)

variable {A : Arithmetic α} {f : UInt64 → α}

theorem considerIn_eq_ok (hA : A.Extends f) {node : ν}
    (hs : A.line (start node) = .ok (f (startLine node)))
    (ht : A.line (stop node) = .ok (f (stopLine node))) (best : Option (Candidate ν)) :
    considerIn A r kinds node (best.map (sized f)) =
      .ok ((consider r kinds node best).map (sized f)) := by
  unfold considerIn consider qualifies
  cases hk : kinds.contains (kind node) with
  | false => rfl
  | true =>
      simp only [hs, ht, hA.ofLine, hA.le_iff, Bool.true_and, if_true, bind, Except.bind]
      by_cases hw : startLine node ≤ r.start ∧ r.stop ≤ stopLine node
      · have hle : startLine node ≤ stopLine node :=
          UInt64.le_trans (UInt64.le_trans hw.1 r.start_le_stop) hw.2
        have hsize : A.difference (f (stopLine node)) (f (startLine node)) =
            .ok (f (lineCount node)) := hA.difference _ _ hle
        rw [if_pos hw, if_pos (LineRange.isWithin_iff.2 hw), hsize]
        cases best with
        | none => rfl
        | some current =>
            simp only [Option.map_some, sized, hA.lt_iff]
            split <;> rfl
      · rw [if_neg hw, if_neg (mt LineRange.isWithin_iff.1 hw)]
        rfl

theorem foldlM_eq_ok {β γ δ ε : Type} {g : β → δ → Except ε β} {h : γ → δ → γ} {φ : γ → β}
    {ds : List δ} (hd : ∀ d ∈ ds, ∀ c, g (φ c) d = .ok (φ (h c d))) (c : γ) :
    ds.foldlM g (φ c) = .ok (φ (ds.foldl h c)) := by
  induction ds generalizing c with
  | nil => rfl
  | cons d ds ih =>
      rw [List.foldlM_cons, hd d List.mem_cons_self]
      exact ih (fun d' hd' => hd d' (List.mem_cons_of_mem _ hd')) (h c d)

theorem exploreIn_eq_ok (hA : A.Extends f) {root : ν} (hc : A.Counts f root) (r : LineRange)
    (kinds : KindSet) (best : Option (Candidate ν)) :
    exploreIn A r kinds root (best.map (sized f)) =
      .ok ((explore r kinds root best).map (sized f)) := by
  induction root using childrenInduction generalizing best with
  | step root ih =>
      obtain ⟨hs, ht⟩ := hc root (mem_preorder_self root)
      rw [exploreIn_eq, explore_eq, considerIn_eq_ok hA hs ht]
      refine foldlM_eq_ok (fun child hm best => ?_) _
      exact ih child hm (fun node hn => hc node (preorder_trans (mem_preorder_of_child hm) hn)) best

theorem enclosingIn_eq_ok (hA : A.Extends f) {root : ν} (hc : A.Counts f root) (r : LineRange)
    (kinds : KindSet) : enclosingIn A r kinds root = .ok (enclosing r kinds root) := by
  have hrun := exploreIn_eq_ok hA hc r kinds none
  rw [Option.map_none] at hrun
  rw [enclosingIn, hrun, enclosing, Except.map, Option.map_map]
  rfl

end Generic

variable {ν : Type} [SyntaxNode ν]

def Unsaturated (root : ν) : Prop :=
  ∀ node ∈ preorder root,
    (start node).row ≠ 18446744073709551615 ∧ (stop node).row ≠ 18446744073709551615

theorem words_count (root : ν) : words.Counts id root := fun node _ =>
  ⟨words_line (start node), words_line (stop node)⟩

theorem Unsaturated.naturals_count {root : ν} (h : Unsaturated root) :
    naturals.Counts UInt64.toNat root := fun node hn =>
  ⟨naturals_line (h node hn).1, naturals_line (h node hn).2⟩

theorem Unsaturated.of_map {μ : Type} [SyntaxNode μ] {f : ν → μ} (hf : Keeps f) {root : ν}
    (h : Unsaturated (f root)) : Unsaturated root := by
  intro node hn
  have hrows := h (f node) (hf.mem_preorder hn)
  rwa [hf.start, hf.stop] at hrows

theorem Unsaturated.record {root node : ν} (h : Unsaturated root) (hn : node ∈ preorder root) :
    (NodeRecord.ofNode node).startLine.toNat = (start node).row.toNat + 1 ∧
      (NodeRecord.ofNode node).stopLine.toNat = (stop node).row.toNat + 1 := by
  obtain ⟨hs, ht⟩ := h.naturals_count node hn
  exact ⟨(Except.ok.inj hs).symm, (Except.ok.inj ht).symm⟩

theorem arithmetic_stays_in_range (r : LineRange) (kinds : KindSet) (root : ν) :
    enclosingIn words r kinds root = .ok (enclosing r kinds root) ∧
    (∀ node ∈ preorder root, Qualifies r kinds node → startLine node ≤ stopLine node) ∧
    (∀ p : Point, words.line p = .ok p.line) ∧
    (Unsaturated root →
      enclosingIn naturals r kinds root = .ok (enclosing r kinds root) ∧
      enclosingIn naturals r kinds (Placed.root root) = .ok (enclosingPlace r kinds root) ∧
      ∀ node, enclosing r kinds root = some node →
        (NodeRecord.ofNode node).startLine.toNat = (start node).row.toNat + 1 ∧
        (NodeRecord.ofNode node).stopLine.toNat = (stop node).row.toNat + 1) := by
  refine ⟨enclosingIn_eq_ok words_extends (words_count root) r kinds,
    fun node _ hq => hq.start_le_stop, words_line, fun h => ⟨?_, ?_, fun node hn => ?_⟩⟩
  · exact enclosingIn_eq_ok naturals_extends h.naturals_count r kinds
  · have hplaced : Unsaturated (Placed.root root) := .of_map Placed.keeps_node h
    exact enclosingIn_eq_ok naturals_extends hplaced.naturals_count r kinds
  · exact h.record (FirstLargest.mem (enclosing_eq_iff.1 hn))

def invertedBlock : SyntaxTree :=
  .node "for_statement" ⟨9, 0⟩ ⟨3, 0⟩ false []

def tallBlock : SyntaxTree :=
  .node "function_definition" ⟨0, 0⟩ ⟨18446744073709551614, 0⟩ false []

def unevenBlocks : SyntaxTree :=
  .node "module" ⟨5, 0⟩ ⟨2, 7⟩ false [invertedBlock, tallBlock]

theorem unevenBlocks_preorder :
    preorder unevenBlocks = [unevenBlocks, invertedBlock] ++ tallBlock :: [] := by
  simp [unevenBlocks, invertedBlock, tallBlock, preorder_eq]

theorem unevenBlocks_in_range :
    let r : LineRange := ⟨4, 18446744073709551615, by decide, by decide⟩
    Unsaturated unevenBlocks ∧
      enclosingIn words r .scopes unevenBlocks = .ok (some tallBlock) ∧
      enclosingIn naturals r .scopes unevenBlocks = .ok (some tallBlock) ∧
      (NodeRecord.ofNode tallBlock).stopLine.toNat = 18446744073709551615 := by
  intro r
  have hu : Unsaturated unevenBlocks := by
    rw [Unsaturated, unevenBlocks_preorder]
    decide
  have hf : "function_definition" ∈ KindSet.scopes := by decide +kernel
  have hanswer : enclosing r .scopes unevenBlocks = some tallBlock := by
    have hnone : ∀ other ∈ [unevenBlocks, invertedBlock], ¬ Qualifies r .scopes other := by
      decide +kernel
    refine enclosing_eq_iff.2 ⟨_, _, unevenBlocks_preorder, ⟨hf, by decide, by decide⟩, ?_, ?_⟩
    · exact fun other ho hq => absurd hq (hnone other ho)
    · exact List.forall_mem_nil _
  obtain ⟨hwords, -, -, hexact⟩ := arithmetic_stays_in_range r .scopes unevenBlocks
  obtain ⟨hnaturals, -, hrecord⟩ := hexact hu
  rw [hanswer] at hwords hnaturals
  exact ⟨hu, hwords, hnaturals, (hrecord tallBlock hanswer).2⟩

end Search

end EnclosingScope
