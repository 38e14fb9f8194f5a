import EnclosingScope.Proofs.KindSet
import EnclosingScope.Proofs.LineRange
import EnclosingScope.Proofs.Tree.Traversal
import EnclosingScope.Search

namespace EnclosingScope

open EnclosingScope.Tree SyntaxNode

def Candidate.ofNode {ν : Type} [SyntaxNode ν] (node : ν) : Candidate ν :=
  ⟨Search.lineCount node, node⟩

namespace Search

variable {ν μ : Type} [SyntaxNode ν] [SyntaxNode μ] {r : LineRange} {kinds : KindSet}

structure Qualifies (r : LineRange) (kinds : KindSet) (node : ν) : Prop where
  allowed : kind node ∈ kinds
  starts : startLine node ≤ r.start
  stops : r.stop ≤ stopLine node

theorem qualifies_iff {node : ν} : qualifies r kinds node = true ↔ Qualifies r kinds node := by
  rw [qualifies, Bool.and_eq_true, KindSet.contains_iff, LineRange.isWithin_iff]
  exact ⟨fun ⟨hk, hs, ht⟩ => ⟨hk, hs, ht⟩, fun ⟨hk, hs, ht⟩ => ⟨hk, hs, ht⟩⟩

instance (node : ν) : Decidable (Qualifies r kinds node) := decidable_of_iff _ qualifies_iff

def span (node : ν) : Nat :=
  (stopLine node).toNat - (startLine node).toNat

namespace Qualifies

variable {node other : ν}

theorem start_le_stop (h : Qualifies r kinds node) : startLine node ≤ stopLine node :=
  UInt64.le_trans (UInt64.le_trans h.starts r.start_le_stop) h.stops

theorem lineCount_toNat (h : Qualifies r kinds node) : (lineCount node).toNat = span node :=
  UInt64.toNat_sub_of_le _ _ h.start_le_stop

theorem lineCount_lt_iff (h : Qualifies r kinds node) (h' : Qualifies r kinds other) :
    lineCount node < lineCount other ↔ span node < span other := by
  rw [UInt64.lt_iff_toNat_lt, h.lineCount_toNat, h'.lineCount_toNat]

end Qualifies

def FirstLargest (r : LineRange) (kinds : KindSet) (nodes : List ν) (node : ν) : Prop :=
  ∃ before after, nodes = before ++ node :: after ∧ Qualifies r kinds node ∧
    (∀ other ∈ before, Qualifies r kinds other → span other < span node) ∧
    ∀ other ∈ after, Qualifies r kinds other → span other ≤ span node

def Best (r : LineRange) (kinds : KindSet) (nodes : List ν) : Option ν → Prop
  | none => ∀ node ∈ nodes, ¬ Qualifies r kinds node
  | some node => FirstLargest r kinds nodes node

namespace FirstLargest

variable {nodes : List ν} {node other : ν}

theorem qualifies (h : FirstLargest r kinds nodes node) : Qualifies r kinds node := by
  obtain ⟨_, _, _, hq, _, _⟩ := h
  exact hq

theorem mem (h : FirstLargest r kinds nodes node) : node ∈ nodes := by
  obtain ⟨before, after, rfl, _, _, _⟩ := h
  simp

theorem span_le (h : FirstLargest r kinds nodes node) (ho : other ∈ nodes)
    (hq : Qualifies r kinds other) : span other ≤ span node := by
  obtain ⟨before, after, rfl, _, hb, ha⟩ := h
  rcases List.mem_append.1 ho with ho | ho
  · exact Nat.le_of_lt (hb other ho hq)
  · rcases List.mem_cons.1 ho with rfl | ho
    · exact Nat.le_refl _
    · exact ha other ho hq

theorem append_right (h : FirstLargest r kinds nodes node) {later : List ν}
    (hl : ∀ other ∈ later, Qualifies r kinds other → span other ≤ span node) :
    FirstLargest r kinds (nodes ++ later) node := by
  obtain ⟨before, after, rfl, hq, hb, ha⟩ := h
  refine ⟨before, after ++ later, by simp, hq, hb, fun other ho => ?_⟩
  exact (List.mem_append.1 ho).elim (ha other) (hl other)

theorem append_left (h : FirstLargest r kinds nodes node) {earlier : List ν}
    (he : ∀ other ∈ earlier, Qualifies r kinds other → span other < span node) :
    FirstLargest r kinds (earlier ++ nodes) node := by
  obtain ⟨before, after, rfl, hq, hb, ha⟩ := h
  refine ⟨earlier ++ before, after, by simp, hq, fun other ho => ?_, ha⟩
  exact (List.mem_append.1 ho).elim (he other) (hb other)

theorem unique (h : FirstLargest r kinds nodes node) (h' : FirstLargest r kinds nodes other) :
    node = other := by
  have hle := h.span_le h'.mem h'.qualifies
  have hle' := h'.span_le h.mem h.qualifies
  obtain ⟨before, after, rfl, hq, hb, _⟩ := h
  obtain ⟨before', after', hs, hq', hb', _⟩ := h'
  -- Whichever of the two came first would be strictly smaller than the other.
  rcases List.append_eq_append_iff.1 hs with ⟨between, rfl, hc⟩ | ⟨between, rfl, hc⟩
  · rcases List.cons_eq_append_iff.1 hc with ⟨_, hc⟩ | ⟨between, rfl, _⟩
    · exact (List.cons_eq_cons.1 hc).1.symm
    · have := hb' node (by simp) hq
      omega
  · rcases List.cons_eq_append_iff.1 hc with ⟨_, hc⟩ | ⟨between, rfl, _⟩
    · exact (List.cons_eq_cons.1 hc).1
    · have := hb other (by simp) hq'
      omega

end FirstLargest

namespace Best

variable {nodes later : List ν} {best found : Option ν}

theorem qualifies (h : Best r kinds nodes best) {node : ν} (hn : node ∈ best) :
    Qualifies r kinds node := by
  cases hn
  exact FirstLargest.qualifies h

theorem unique (h : Best r kinds nodes best) (h' : Best r kinds nodes found) : best = found := by
  cases best with
  | none =>
      cases found with
      | none => rfl
      | some node => exact absurd (FirstLargest.qualifies h') (h node (FirstLargest.mem h'))
  | some node =>
      cases found with
      | none => exact absurd (FirstLargest.qualifies h) (h' node (FirstLargest.mem h))
      | some other => exact congrArg some (FirstLargest.unique h h')

theorem nil : Best r kinds ([] : List ν) none := by
  intro node hn
  cases hn

end Best

def prefer : Option ν → Option ν → Option ν
  | none, found => found
  | some current, none => some current
  | some current, some next => if span current < span next then some next else some current

theorem Best.append {nodes later : List ν} {best found : Option ν}
    (h : Best r kinds nodes best) (h' : Best r kinds later found) :
    Best r kinds (nodes ++ later) (prefer best found) := by
  cases best with
  | none =>
      cases found with
      | none =>
          intro node hn
          exact (List.mem_append.1 hn).elim (h node) (h' node)
      | some next => exact h'.append_left fun other ho hq => absurd hq (h other ho)
  | some current =>
      cases found with
      | none => exact h.append_right fun other ho hq => absurd hq (h' other ho)
      | some next =>
          simp only [prefer]
          split
          · next hlt =>
              exact h'.append_left fun other ho hq => Nat.lt_of_le_of_lt (h.span_le ho hq) hlt
          · next hge =>
              exact h.append_right fun other ho hq =>
                Nat.le_trans (h'.span_le ho hq) (Nat.not_lt.1 hge)

def offer (r : LineRange) (kinds : KindSet) (node : ν) : Option ν :=
  if Qualifies r kinds node then some node else none

theorem offer_best (node : ν) : Best r kinds [node] (offer r kinds node) := by
  rw [offer]
  split
  · next hq => exact ⟨[], [], rfl, hq, by simp, by simp⟩
  · next hq =>
      intro other ho
      rw [List.mem_singleton.1 ho]
      exact hq

def keep (r : LineRange) (kinds : KindSet) (best : Option ν) (node : ν) : Option ν :=
  prefer best (offer r kinds node)

theorem Best.step {nodes : List ν} {best : Option ν} (h : Best r kinds nodes best) (node : ν) :
    Best r kinds (nodes ++ [node]) (keep r kinds best node) :=
  h.append (offer_best node)

theorem Best.run {nodes : List ν} {best : Option ν} (h : Best r kinds nodes best)
    (later : List ν) : Best r kinds (nodes ++ later) (later.foldl (keep r kinds) best) := by
  induction later generalizing nodes best with
  | nil => simpa using h
  | cons node later ih => simpa using ih (h.step node)

theorem consider_eq_keep {best : Option ν} (h : ∀ current ∈ best, Qualifies r kinds current)
    (node : ν) :
    consider r kinds node (best.map .ofNode) = (keep r kinds best node).map .ofNode := by
  by_cases hq : Qualifies r kinds node
  · cases best with
    | none => simp [consider, keep, offer, prefer, qualifies_iff.2 hq, hq, Candidate.ofNode]
    | some current =>
        have hlt := (h current rfl).lineCount_lt_iff hq
        simp only [consider, keep, offer, prefer, qualifies_iff.2 hq, hq, Candidate.ofNode,
          Option.map_some, if_true, hlt]
        split <;> rfl
  · have hn : qualifies r kinds node = false := by
      rw [← Bool.not_eq_true, qualifies_iff]
      exact hq
    cases best <;> simp [consider, keep, offer, prefer, hn, hq]

theorem explore_eq_foldl (r : LineRange) (kinds : KindSet) (node : ν)
    (best : Option (Candidate ν)) :
    explore r kinds node best =
      (preorder node).foldl (fun best node => consider r kinds node best) best := by
  induction node using childrenInduction generalizing best with
  | step node ih =>
      rw [explore_eq, preorder_eq, List.foldl_cons, List.foldl_flatMap]
      exact List.foldl_ext _ _ _ fun best child hc => ih child hc best

theorem foldl_consider_eq {nodes : List ν} {best : Option ν} (h : Best r kinds nodes best)
    (later : List ν) :
    later.foldl (fun best node => consider r kinds node best) (best.map .ofNode) =
      (later.foldl (keep r kinds) best).map .ofNode := by
  induction later generalizing nodes best with
  | nil => rfl
  | cons node later ih =>
      rw [List.foldl_cons, List.foldl_cons, consider_eq_keep fun _ hc => h.qualifies hc]
      exact ih (h.step node)

theorem enclosing_eq_foldl (r : LineRange) (kinds : KindSet) (root : ν) :
    enclosing r kinds root = (preorder root).foldl (keep r kinds) none := by
  have hn : Best r kinds ([] : List ν) none := Best.nil
  rw [enclosing, explore_eq_foldl, ← Option.map_none, foldl_consider_eq hn, Option.map_map]
  exact Option.map_id' ..

theorem enclosing_best (r : LineRange) (kinds : KindSet) (root : ν) :
    Best r kinds (preorder root) (enclosing r kinds root) := by
  rw [enclosing_eq_foldl]
  exact Best.nil.run (preorder root)

theorem enclosing_eq_iff {root : ν} {found : Option ν} :
    enclosing r kinds root = found ↔ Best r kinds (preorder root) found := by
  constructor
  · rintro rfl
    exact enclosing_best r kinds root
  · intro h
    exact (enclosing_best r kinds root).unique h

theorem enclosing_qualifies {root node : ν} (h : enclosing r kinds root = some node) :
    Qualifies r kinds node :=
  FirstLargest.qualifies (enclosing_eq_iff.1 h)

theorem enclosing_finds_first_largest (r : LineRange) (kinds : KindSet) (root : ν) :
    (enclosing r kinds root = none ↔ ∀ node ∈ preorder root, ¬ Qualifies r kinds node) ∧
    ∀ node, enclosing r kinds root = some node ↔
      ∃ before after, preorder root = before ++ [node] ++ after ∧ Qualifies r kinds node ∧
        (∀ other ∈ before, Qualifies r kinds other → span other < span node) ∧
        ∀ other ∈ after, Qualifies r kinds other → span other ≤ span node := by
  refine ⟨enclosing_eq_iff, fun node => ?_⟩
  rw [enclosing_eq_iff, Best, FirstLargest]
  simp only [List.append_assoc, List.singleton_append]

section Keeps

variable {f : ν → μ}

theorem qualifies_map_iff (hf : Keeps f) {node : ν} :
    Qualifies r kinds (f node) ↔ Qualifies r kinds node := by
  rw [← qualifies_iff, ← qualifies_iff, qualifies, qualifies, hf.kind, hf.startLine, hf.stopLine]

theorem span_map (hf : Keeps f) (node : ν) : span (f node) = span node := by
  rw [span, span, hf.startLine, hf.stopLine]

theorem Best.map (hf : Keeps f) {nodes : List ν} {best : Option ν} (h : Best r kinds nodes best) :
    Best r kinds (nodes.map f) (best.map f) := by
  cases best with
  | none =>
      intro image hi
      obtain ⟨node, hn, rfl⟩ := List.mem_map.1 hi
      rw [qualifies_map_iff hf]
      exact h node hn
  | some node =>
      obtain ⟨before, after, rfl, hq, hb, ha⟩ := h
      refine ⟨before.map f, after.map f, by simp, (qualifies_map_iff hf).2 hq, ?_, ?_⟩
      · simpa [qualifies_map_iff hf, span_map hf] using hb
      · simpa [qualifies_map_iff hf, span_map hf] using ha

theorem enclosing_map (hf : Keeps f) (r : LineRange) (kinds : KindSet) (root : ν) :
    enclosing r kinds (f root) = (enclosing r kinds root).map f := by
  rw [enclosing_eq_iff, hf.preorder]
  exact (enclosing_best r kinds root).map hf

end Keeps

def enclosingPlace (r : LineRange) (kinds : KindSet) (root : ν) : Option (Placed ν) :=
  enclosing r kinds (Placed.root root)

theorem enclosingPlace_node (r : LineRange) (kinds : KindSet) (root : ν) :
    (enclosingPlace r kinds root).map (·.node) = enclosing r kinds root :=
  (enclosing_map Placed.keeps_node r kinds (Placed.root root)).symm

theorem enclosingPlace_exists {root node : ν} (h : enclosing r kinds root = some node) :
    ∃ place, enclosingPlace r kinds root = some place ∧ place.node = node := by
  rwa [← enclosingPlace_node, Option.map_eq_some_iff] at h

end Search

end EnclosingScope
