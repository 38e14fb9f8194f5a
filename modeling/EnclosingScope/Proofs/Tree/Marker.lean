import EnclosingScope.Proofs.Tree.Traversal
import EnclosingScope.Verdict

namespace EnclosingScope

namespace Tree

def ErrorSpan.ofNode {ν : Type} [SyntaxNode ν] (node : ν) : ErrorSpan :=
  ⟨SyntaxNode.start node, SyntaxNode.stop node⟩

namespace SyntaxNode

variable {ν μ : Type} [SyntaxNode ν] [SyntaxNode μ]

def markers (root : ν) : List ν :=
  (preorder root).filter marksError

def addMarker (found : List ErrorSpan) (node : ν) : List ErrorSpan :=
  if marksError node then found ++ [.ofNode node] else found

theorem foldl_addMarker (found : List ErrorSpan) (nodes : List ν) :
    nodes.foldl addMarker found = found ++ (nodes.filter marksError).map .ofNode := by
  induction nodes generalizing found with
  | nil => simp
  | cons node nodes ih =>
      rw [List.foldl_cons, ih, addMarker]
      cases h : marksError node with
      | true => simp [h]
      | false => simp [h]

theorem collectErrors_eq_foldl (node : ν) (found : List ErrorSpan) :
    collectErrors node found = (preorder node).foldl addMarker found := by
  induction node using childrenInduction generalizing found with
  | step node ih =>
      rw [collectErrors_eq, preorder_eq, List.foldl_cons, List.foldl_flatMap]
      exact List.foldl_ext _ _ _ fun found child hc => ih child hc found

theorem collectErrors_eq_append (node : ν) (found : List ErrorSpan) :
    collectErrors node found = found ++ (markers node).map .ofNode := by
  rw [collectErrors_eq_foldl, foldl_addMarker, markers]

theorem errors_eq_markers (root : ν) : errors root = (markers root).map .ofNode :=
  collectErrors_eq_append root []

theorem hasErrors_eq_any (node : ν) : hasErrors node = (preorder node).any marksError := by
  induction node using childrenInduction with
  | step node ih =>
      rw [hasErrors_eq, preorder_eq, List.any_cons, List.any_flatMap]
      congr 1
      rw [Bool.eq_iff_iff, List.any_eq_true, List.any_eq_true]
      exact exists_congr fun child => and_congr_right fun hc => by rw [ih child hc]

theorem hasErrors_eq_false_iff {root : ν} : hasErrors root = false ↔ errors root = [] := by
  rw [hasErrors_eq_any, errors_eq_markers, List.map_eq_nil_iff, markers, List.filter_eq_nil_iff,
    List.any_eq_false]

theorem hasErrors_iff {root : ν} : hasErrors root = true ↔ errors root ≠ [] := by
  rw [Ne, ← hasErrors_eq_false_iff, Bool.not_eq_false]

namespace Keeps

variable {f : ν → μ}

theorem markers (hf : Keeps f) (root : ν) :
    SyntaxNode.markers (f root) = (SyntaxNode.markers root).map f := by
  have hm : SyntaxNode.marksError ∘ f = SyntaxNode.marksError := funext hf.marksError
  rw [SyntaxNode.markers, hf.preorder, List.filter_map, hm, SyntaxNode.markers]

theorem errors (hf : Keeps f) (root : ν) :
    SyntaxNode.errors (f root) = SyntaxNode.errors root := by
  have hs : (ErrorSpan.ofNode ∘ f : ν → ErrorSpan) = ErrorSpan.ofNode := by
    funext node
    simp [ErrorSpan.ofNode, hf.start, hf.stop]
  rw [errors_eq_markers, errors_eq_markers, hf.markers, List.map_map, hs]

theorem hasErrors (hf : Keeps f) (root : ν) :
    SyntaxNode.hasErrors (f root) = SyntaxNode.hasErrors root := by
  rw [Bool.eq_iff_iff, hasErrors_iff, hasErrors_iff, hf.errors]

end Keeps

end SyntaxNode

end Tree

namespace Verdict

open EnclosingScope.Tree SyntaxNode

variable {ν : Type} [SyntaxNode ν]

theorem ofTree_eq_accepted_iff {root : ν} : ofTree root = accepted ↔ errors root = [] := by
  rw [← hasErrors_eq_false_iff, ofTree]
  cases hasErrors root with
  | true => simp [accepted, rejected]
  | false => simp

theorem ofTree_eq_rejected_iff {root : ν} :
    ofTree root = rejected unreadable ↔ errors root ≠ [] := by
  rw [← hasErrors_iff, ofTree]
  cases hasErrors root with
  | true => simp
  | false => simp [accepted, rejected]

theorem checks_agree_on_markers (root : ν) :
    errors root =
      ((preorder root).filter marksError).map (fun node => ⟨start node, stop node⟩) ∧
    (hasErrors root = true ↔ errors root ≠ []) ∧
    (ofTree root = ⟨true, ""⟩ ↔ errors root = []) ∧
    (ofTree root = ⟨false, "Syntax error in Python code"⟩ ↔ errors root ≠ []) :=
  ⟨errors_eq_markers root, hasErrors_iff, ofTree_eq_accepted_iff, ofTree_eq_rejected_iff⟩

end Verdict

end EnclosingScope
