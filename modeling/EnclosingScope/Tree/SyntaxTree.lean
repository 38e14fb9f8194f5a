import EnclosingScope.Tree.Node

namespace EnclosingScope.Tree

inductive SyntaxTree where
  | node (kind : String) (start stop : Point) (isError : Bool) (children : List SyntaxTree)
  deriving Repr

namespace SyntaxTree

def kind : SyntaxTree → String
  | node kind _ _ _ _ => kind

def start : SyntaxTree → Point
  | node _ start _ _ _ => start

def stop : SyntaxTree → Point
  | node _ _ stop _ _ => stop

def isError : SyntaxTree → Bool
  | node _ _ _ isError _ => isError

def children : SyntaxTree → List SyntaxTree
  | node _ _ _ _ children => children

def leaf (kind : String) (start stop : Point) : SyntaxTree :=
  node kind start stop (kind == errorKind) []

def withChildren (tree : SyntaxTree) (children : List SyntaxTree) : SyntaxTree :=
  node tree.kind tree.start tree.stop tree.isError children

theorem sizeOf_child {child tree : SyntaxTree} (h : child ∈ tree.children) :
    sizeOf child < sizeOf tree := by
  cases tree with
  | node kind start stop isError children =>
      have := List.sizeOf_lt_of_mem (show child ∈ children from h)
      simp only [node.sizeOf_spec]
      omega

instance : SyntaxNode SyntaxTree where
  kind := kind
  start := start
  stop := stop
  children := children
  marksError := isError
  descent := Subrelation.wf (fun h => sizeOf_child h) (measure sizeOf).wf

mutual

def decEq : (a b : SyntaxTree) → Decidable (a = b)
  | node k s t e cs, node k' s' t' e' cs' =>
      if h : k = k' ∧ s = s' ∧ t = t' ∧ e = e' then
        match decEqAll cs cs' with
        | isTrue hc => isTrue (by obtain ⟨rfl, rfl, rfl, rfl⟩ := h; rw [hc])
        | isFalse hc => isFalse (by intro he; injection he; contradiction)
      else isFalse (by intro he; injection he; simp_all)

def decEqAll : (as bs : List SyntaxTree) → Decidable (as = bs)
  | [], [] => isTrue rfl
  | [], _ :: _ => isFalse (by simp)
  | _ :: _, [] => isFalse (by simp)
  | a :: as, b :: bs =>
      match decEq a b, decEqAll as bs with
      | isTrue ha, isTrue hs => isTrue (by rw [ha, hs])
      | isFalse ha, _ => isFalse (by intro h; injection h; contradiction)
      | _, isFalse hs => isFalse (by intro h; injection h; contradiction)

end

instance : DecidableEq SyntaxTree := decEq

def ofNode {ν : Type} [SyntaxNode ν] (n : ν) : SyntaxTree :=
  node (SyntaxNode.kind n) (SyntaxNode.start n) (SyntaxNode.stop n) (SyntaxNode.marksError n)
    ((SyntaxNode.children n).attach.map fun ⟨child, _⟩ => ofNode child)
termination_by n

theorem ofNode_eq {ν : Type} [SyntaxNode ν] (n : ν) :
    ofNode n =
      node (SyntaxNode.kind n) (SyntaxNode.start n) (SyntaxNode.stop n)
        (SyntaxNode.marksError n) ((SyntaxNode.children n).map ofNode) := by
  rw [ofNode]
  congr 1
  exact List.map_subtype (fun _ _ => rfl) |>.trans (by simp)

end SyntaxTree

end EnclosingScope.Tree
