import EnclosingScope.KindSet
import EnclosingScope.LineRange
import EnclosingScope.Tree.Node

namespace EnclosingScope

open EnclosingScope.Tree

structure Candidate (ν : Type) where
  size : UInt64
  node : ν

namespace Search

variable {ν : Type} [SyntaxNode ν]

def qualifies (r : LineRange) (kinds : KindSet) (node : ν) : Bool :=
  kinds.contains (SyntaxNode.kind node) &&
    r.isWithin (SyntaxNode.startLine node) (SyntaxNode.stopLine node)

def lineCount (node : ν) : UInt64 :=
  SyntaxNode.stopLine node - SyntaxNode.startLine node

def consider (r : LineRange) (kinds : KindSet) (node : ν) (best : Option (Candidate ν)) :
    Option (Candidate ν) :=
  if qualifies r kinds node then
    match best with
    | none => some ⟨lineCount node, node⟩
    | some current => if current.size < lineCount node then some ⟨lineCount node, node⟩ else best
  else best

def explore (r : LineRange) (kinds : KindSet) (node : ν) (best : Option (Candidate ν)) :
    Option (Candidate ν) :=
  (SyntaxNode.children node).attach.foldl (fun best ⟨child, _⟩ => explore r kinds child best)
    (consider r kinds node best)
termination_by node

theorem explore_eq (r : LineRange) (kinds : KindSet) (node : ν) (best : Option (Candidate ν)) :
    explore r kinds node best =
      (SyntaxNode.children node).foldl (fun best child => explore r kinds child best)
        (consider r kinds node best) := by
  rw [explore]
  exact List.foldl_subtype (fun _ _ _ => rfl) |>.trans (by simp)

def enclosing (r : LineRange) (kinds : KindSet) (root : ν) : Option ν :=
  (explore r kinds root none).map (·.node)

end Search

end EnclosingScope
