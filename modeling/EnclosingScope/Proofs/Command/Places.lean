import EnclosingScope.Proofs.Command.Find
import EnclosingScope.Proofs.Command.SourceOrder
import EnclosingScope.Proofs.Text.Lines

namespace EnclosingScope

open EnclosingScope.Tree SyntaxNode Python

namespace Text

structure Trimmed (cs kept : List Char) : Prop where
  around : ∃ before after, cs = before ++ (kept ++ after) ∧
    (∀ c ∈ before, isBlank c = true) ∧ ∀ c ∈ after, isBlank c = true
  first : ∀ c ∈ kept.head?, isBlank c = false
  last : ∀ c ∈ kept.getLast?, isBlank c = false

theorem Trimmed.subset {cs kept : List Char} (h : Trimmed cs kept) : kept ⊆ cs := by
  obtain ⟨before, after, rfl, -, -⟩ := h.around
  intro c hc
  simp [hc]

end Text

namespace Command.Check

open Files Text

variable {files : Access} {parser : Parser} {filter : LogFilter} {paint : Paint}
  {file : Path} {text : String} {tree : SyntaxTree}

def placeText (line column : UInt64) (shown : String) : String :=
  "  at " ++ Decimal.text line.toNat ++ ":" ++ Decimal.text column.toNat ++ ": " ++ shown

def isPlace (entry : String) : Bool :=
  "  at ".toList.isPrefixOf entry.toList

def rowAt (rows : List Line) (row : UInt64) : List Char :=
  (rows[row.toNat]?.map Line.text).getD []

-- Rows count from zero and lines from one, as far as numbers of 64 bits go.
def PointsAt (rows : List Line) (marker : SyntaxTree) (entry : String) : Prop :=
  ∃ line shown, entry = placeText line (start marker).column shown ++ "\n" ∧
    OneLine (placeText line (start marker).column shown) ∧
    line.toNat = min ((start marker).row.toNat + 1) 18446744073709551615 ∧
    Trimmed (rowAt rows (start marker).row) shown.toList

theorem isPlace_placeText (line column : UInt64) (shown : String) :
    isPlace (placeText line column shown ++ "\n") = true := by
  simp [isPlace, placeText]

theorem PointsAt.isPlace {rows : List Line} {marker : SyntaxTree} {entry : String}
    (h : PointsAt rows marker entry) : Check.isPlace entry = true := by
  obtain ⟨line, shown, rfl, -, -, -⟩ := h
  exact isPlace_placeText _ _ _

end Command.Check

end EnclosingScope
