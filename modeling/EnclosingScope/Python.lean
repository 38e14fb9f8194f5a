import EnclosingScope.Grammar.Python
import EnclosingScope.Parsing.Parser
import EnclosingScope.Tree.SyntaxTree

namespace EnclosingScope.Python

open Grammar Parsing EnclosingScope.Tree

theorem mem_of_mem_withLabels {part : Subtree × Option Label} {parts : List Subtree}
    {labels : List (Option Label)} (h : part ∈ Subtree.withLabels parts labels) :
    part.1 ∈ parts := by
  induction parts generalizing labels with
  | nil => simp [Subtree.withLabels] at h
  | cons first rest ih =>
      simp only [Subtree.withLabels] at h
      split at h
      · rcases List.mem_cons.1 h with rfl | h
        · simp
        · exact List.mem_cons_of_mem _ (ih h)
      · split at h <;> rcases List.mem_cons.1 h with rfl | h
        · simp
        · exact List.mem_cons_of_mem _ (ih h)
        · simp
        · exact List.mem_cons_of_mem _ (ih h)

def kindOf (g : Productions) (part : Subtree) (label : Option Label) : String :=
  match label with
  | some label => label.name
  | none =>
      if part.isError then errorKind
      else
        match g.appearances[part.symbol]? with
        | some appearance => appearance.name
        | none => ""

def pointAt (p : Place) : Point :=
  ⟨p.row.toUInt64, p.column.toUInt64⟩

def shown (g : Productions) (part : Subtree) (label : Option Label) : List SyntaxTree :=
  let below := (Subtree.withLabels part.children.toList part.labels).attach.flatMap
    fun ⟨child, _⟩ => shown g child.1 child.2
  if label.isSome || part.visible then
    [.node (kindOf g part label) (pointAt part.start) (pointAt part.stop)
      (part.isError || part.missing) below]
  else below
termination_by part
decreasing_by
  rename_i h
  have hm := Array.sizeOf_lt_of_mem (Array.mem_toList_iff.1 (mem_of_mem_withLabels h))
  cases part
  simp only [Subtree.mk.sizeOf_spec] at hm ⊢
  omega

inductive ParseError where
  | language (message : String)
  | source
  deriving DecidableEq, Repr

def ParseError.message : ParseError → String
  | language message => "failed to set language for parser: " ++ message
  | source => "failed to parse source code"

def table : Table := Table.ofLanguage Grammar.Python.language

def parseWith (table : Table) (source : String) : Except ParseError SyntaxTree :=
  match read table source with
  | none => .error .source
  | some root =>
      match shown table.grammar root none with
      | [] => .error .source
      | tree :: _ => .ok tree

abbrev Parser := String → Except ParseError SyntaxTree

def parse : Parser := parseWith table

structure Engine where
  create : Except ParseError Parser

def engine : Engine := ⟨.ok parse⟩

end EnclosingScope.Python
