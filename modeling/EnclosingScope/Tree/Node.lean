import EnclosingScope.Tree.Point

namespace EnclosingScope.Tree

def errorKind : String := "ERROR"

class SyntaxNode (ν : Type) where
  kind : ν → String
  start : ν → Point
  stop : ν → Point
  children : ν → List ν
  marksError : ν → Bool := fun node => kind node == errorKind
  descent : WellFounded fun child node : ν => child ∈ children node

namespace SyntaxNode

variable {ν : Type} [SyntaxNode ν]

instance : WellFoundedRelation ν := ⟨_, descent⟩

def startLine (node : ν) : UInt64 := (start node).line

def stopLine (node : ν) : UInt64 := (stop node).line

def preorder (node : ν) : List ν :=
  node :: (children node).attach.flatMap fun ⟨child, _⟩ => preorder child
termination_by node

theorem preorder_eq (node : ν) : preorder node = node :: (children node).flatMap preorder := by
  rw [preorder]
  congr 1
  exact List.flatMap_subtype (fun _ _ => rfl) |>.trans (by simp)

theorem mem_preorder_self (node : ν) : node ∈ preorder node := by
  rw [preorder_eq]; exact List.mem_cons_self ..

end SyntaxNode

end EnclosingScope.Tree
