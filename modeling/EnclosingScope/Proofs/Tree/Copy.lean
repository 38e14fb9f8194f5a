import EnclosingScope.Proofs.Search.Largest
import EnclosingScope.Proofs.Tree.Marker
import EnclosingScope.Record

namespace EnclosingScope

open EnclosingScope.Tree SyntaxNode

variable {ν μ : Type} [SyntaxNode ν] [SyntaxNode μ]

theorem NodeRecord.ofNode_of_keeps {f : ν → μ} (hf : Keeps f) (node : ν) :
    NodeRecord.ofNode (f node) = NodeRecord.ofNode node := by
  simp only [NodeRecord.ofNode, hf.kind, hf.start, hf.stop]

theorem Verdict.ofTree_of_keeps {f : ν → μ} (hf : Keeps f) (root : ν) :
    Verdict.ofTree (f root) = Verdict.ofTree root := by
  rw [Verdict.ofTree, Verdict.ofTree, hf.hasErrors]

namespace Tree.SyntaxTree

theorem keeps_ofNode : Keeps (ofNode : ν → SyntaxTree) where
  kind node := by rw [ofNode_eq]; rfl
  start node := by rw [ofNode_eq]; rfl
  stop node := by rw [ofNode_eq]; rfl
  marksError node := by rw [ofNode_eq]; rfl
  children node := by rw [ofNode_eq]; rfl

theorem ofNode_self (tree : SyntaxTree) : ofNode tree = tree := by
  induction tree using childrenInduction with
  | step tree ih =>
      have hc : (SyntaxNode.children tree).map ofNode = SyntaxNode.children tree :=
        (List.map_congr_left ih).trans (List.map_id' _)
      rw [ofNode_eq, hc]
      cases tree with
      | node kind start stop isError children => rfl

theorem enclosing_ofNode (r : LineRange) (kinds : KindSet) (root : ν) :
    (Search.enclosing r kinds (ofNode root)).map NodeRecord.ofNode =
      (Search.enclosing r kinds root).map NodeRecord.ofNode := by
  have hrecord : (NodeRecord.ofNode ∘ ofNode : ν → NodeRecord) = NodeRecord.ofNode :=
    funext (NodeRecord.ofNode_of_keeps keeps_ofNode)
  rw [Search.enclosing_map keeps_ofNode, Option.map_map, hrecord]

theorem copy_answers_alike (root : ν) :
    (∀ (r : LineRange) (kinds : KindSet),
      (Search.enclosing r kinds (ofNode root)).map NodeRecord.ofNode =
        (Search.enclosing r kinds root).map NodeRecord.ofNode) ∧
    Verdict.ofTree (ofNode root) = Verdict.ofTree root ∧
    hasErrors (ofNode root) = hasErrors root ∧
    errors (ofNode root) = errors root ∧
    (∀ tree : SyntaxTree, ofNode tree = tree) ∧
    ofNode (ofNode root) = ofNode root := by
  refine ⟨fun r kinds => enclosing_ofNode r kinds root, ?_, ?_, ?_, ofNode_self, ?_⟩
  · exact Verdict.ofTree_of_keeps keeps_ofNode root
  · exact keeps_ofNode.hasErrors root
  · exact keeps_ofNode.errors root
  · exact ofNode_self (ofNode root)

end Tree.SyntaxTree

end EnclosingScope
