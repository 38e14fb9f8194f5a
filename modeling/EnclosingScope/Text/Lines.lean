import EnclosingScope.Tree.Point

namespace EnclosingScope.Text

inductive LineEnd where
  | none
  | lineFeed
  | carriageReturnLineFeed
  deriving DecidableEq, Repr

structure Line where
  text : List Char
  ending : LineEnd
  deriving DecidableEq, Repr

def Line.close : List Char → Line
  | '\r' :: back => ⟨back.reverse, .carriageReturnLineFeed⟩
  | back => ⟨back.reverse, .lineFeed⟩

def linesFrom (back : List Char) : List Char → List Line
  | [] => if back.isEmpty then [] else [⟨back.reverse, .none⟩]
  | c :: cs => if c = '\n' then Line.close back :: linesFrom [] cs else linesFrom (c :: back) cs

def lines (text : List Char) : List Line :=
  linesFrom [] text

def lineText (source : String) (point : Tree.Point) : String :=
  match (lines source.toList)[point.row.toNat]? with
  | some line => String.ofList line.text
  | none => ""

end EnclosingScope.Text
