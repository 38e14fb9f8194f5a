import EnclosingScope.Tree.Marker

namespace EnclosingScope

open EnclosingScope.Tree

structure Verdict where
  valid : Bool
  error : String
  deriving DecidableEq, Repr

namespace Verdict

def unreadable : String := "Syntax error in Python code"

def accepted : Verdict := ⟨true, ""⟩

def rejected (error : String) : Verdict := ⟨false, error⟩

def ofTree {ν : Type} [SyntaxNode ν] (root : ν) : Verdict :=
  if SyntaxNode.hasErrors root then rejected unreadable else accepted

end Verdict

end EnclosingScope
