import EnclosingScope.Tree.Node

namespace EnclosingScope.Tree

structure ErrorSpan where
  start : Point
  stop : Point
  deriving DecidableEq, Repr

namespace SyntaxNode

variable {ν : Type} [SyntaxNode ν]

def hasErrors (node : ν) : Bool :=
  marksError node || (children node).attach.any fun ⟨child, _⟩ => hasErrors child
termination_by node

theorem hasErrors_eq (node : ν) :
    hasErrors node = (marksError node || (children node).any hasErrors) := by
  rw [hasErrors]
  congr 1
  exact List.any_subtype (fun _ _ => rfl) |>.trans (by simp)

def collectErrors (node : ν) (found : List ErrorSpan) : List ErrorSpan :=
  let here := if marksError node then found ++ [⟨start node, stop node⟩] else found
  (children node).attach.foldl (fun found ⟨child, _⟩ => collectErrors child found) here
termination_by node

theorem collectErrors_eq (node : ν) (found : List ErrorSpan) :
    collectErrors node found =
      (children node).foldl (fun found child => collectErrors child found)
        (if marksError node then found ++ [⟨start node, stop node⟩] else found) := by
  rw [collectErrors]
  exact List.foldl_subtype (fun _ _ _ => rfl) |>.trans (by simp)

def errors (node : ν) : List ErrorSpan :=
  collectErrors node []

end SyntaxNode

end EnclosingScope.Tree
