import EnclosingScope.Proofs.Command.Check
import EnclosingScope.Proofs.Tree.Nesting

namespace EnclosingScope

open EnclosingScope.Tree SyntaxNode Python

def InSourceOrder (spans : List ErrorSpan) : Prop :=
  spans.Pairwise fun earlier later => earlier.start ≤ later.start

theorem InSourceOrder.lines {spans : List ErrorSpan} (h : InSourceOrder spans) :
    (spans.map (·.start.line)).Pairwise (· ≤ ·) :=
  List.pairwise_map.2 (h.imp Point.line_le_line)

theorem Tree.SyntaxNode.Ordered.errors {ν : Type} [SyntaxNode ν] {root : ν} (h : Ordered root) :
    InSourceOrder (errors root) := by
  rw [errors_eq_markers, InSourceOrder, List.pairwise_map]
  exact h.starts_pairwise.filter marksError

namespace Command.Check

open Files

variable {files : Access} {parser : Parser} {file : Path} {text : String} {tree : SyntaxTree}
  {filter : LogFilter} {paint : Paint}

def headline (paint : Paint) (file : Path) (tree : SyntaxTree) : Piece :=
  if hasErrors tree then ⟨.err, crossEntry paint file Verdict.unreadable⟩
  else ⟨.out, checkEntry paint file⟩

def errorPiece (text : String) (span : ErrorSpan) : Piece :=
  ⟨.err, errorLine text span⟩

theorem finding_of_parsed (hr : files.readText file = .ok text) (hp : parser text = .ok tree) :
    finding files ⟨parser, .scopes⟩ file = ⟨file, .ofTree tree, some text, []⟩ := by
  simp only [finding, hr, Finder.verdict, Verdict.ofSource, hp]

theorem errorLines_of_parsed (hp : parser text = .ok tree) :
    errorLines ⟨parser, .scopes⟩ text = (errors tree).map (errorLine text) := by
  simp only [errorLines, Finder.errors, hp]
  rfl

theorem piecesOf_parsed (hr : files.readText file = .ok text) (hp : parser text = .ok tree) :
    piecesOf ⟨parser, .scopes⟩ filter paint false (finding files ⟨parser, .scopes⟩ file) =
      headline paint file tree :: (errors tree).map (errorPiece text) := by
  have hlogs : filter.pieces [] = [] := rfl
  rw [finding_of_parsed hr hp, piecesOf, hlogs, List.nil_append, if_neg Bool.false_ne_true, human,
    headline]
  cases hm : hasErrors tree with
  | true =>
      have hverdict : Verdict.ofTree tree = .rejected Verdict.unreadable := if_pos hm
      simp only [hverdict, errorLines_of_parsed hp, List.map_map]
      rfl
  | false =>
      have hverdict : Verdict.ofTree tree = .accepted := by
        rw [Verdict.ofTree, hm]
        rfl
      rw [hverdict, hasErrors_eq_false_iff.1 hm]
      rfl

theorem errors_told_in_source_order :
    (∀ {ν : Type} [SyntaxNode ν] (root : ν), Ordered root →
      (errors root).Pairwise fun earlier later => earlier.start ≤ later.start) ∧
    ∀ {engine : Engine} {parser : Parser}, engine.create = .ok parser →
      ∀ (files : Access) (filter : LogFilter) (paint : Paint) (paths found : List Path),
        discover files paths = .ok found → ∃ (told : Path → List Piece) (summary : String),
          (run engine files filter paint paths false).pieces =
            found.flatMap told ++ [⟨.out, summary⟩] ∧
          ∀ file text tree, files.readText file = .ok text → parser text = .ok tree →
            told file = headline paint file tree :: (errors tree).map (errorPiece text) ∧
            (Ordered tree → ((errors tree).map (·.start.line)).Pairwise (· ≤ ·)) := by
  refine ⟨fun root h => h.errors,
    fun {engine parser} hc files filter paint paths found hfound => ?_⟩
  refine ⟨_, _, (congrArg Outcome.pieces (run_eq_report hc hfound filter paint false)).trans
    (report_pieces false found), ?_⟩
  intro file text tree hr hp
  exact ⟨piecesOf_parsed hr hp, fun h => h.errors.lines⟩

def tornText : String := "x = (1\n  2))\n"

def tornPart : SyntaxTree :=
  .node "ERROR" ⟨0, 4⟩ ⟨1, 3⟩ true
    [.node ")" ⟨0, 6⟩ ⟨0, 6⟩ true [], .node "newline" ⟨0, 6⟩ ⟨0, 6⟩ true []]

def tornTree : SyntaxTree :=
  .node "module" ⟨0, 0⟩ ⟨2, 0⟩ false
    [.node "identifier" ⟨0, 0⟩ ⟨0, 1⟩ false [], tornPart, .node "ERROR" ⟨1, 3⟩ ⟨1, 5⟩ true []]

def tornFiles : Access where
  read _ := .ok tornText.toUTF8
  below _ := none

def tornSpans : List ErrorSpan :=
  [⟨⟨0, 4⟩, ⟨1, 3⟩⟩, ⟨⟨0, 6⟩, ⟨0, 6⟩⟩, ⟨⟨0, 6⟩, ⟨0, 6⟩⟩, ⟨⟨1, 3⟩, ⟨1, 5⟩⟩]

theorem ordered_tornTree : Ordered tornTree := by
  simp [tornTree, tornPart, Point.le_iff]

theorem errors_tornTree : errors tornTree = tornSpans := by
  rw [errors_eq_markers, markers]
  simp [tornTree, tornPart, preorder_eq]
  rfl

theorem headline_tornTree :
    headline ⟨false⟩ "torn.py" tornTree =
      ⟨.err, "✗ torn.py: Syntax error in Python code\n"⟩ := by
  have hm : hasErrors tornTree = true := by
    rw [hasErrors_iff, errors_tornTree]
    decide
  rw [headline, if_pos hm]
  decide +kernel

theorem map_tornSpans :
    tornSpans.map (errorPiece tornText) =
      [⟨.err, "  at 1:4: x = (1\n"⟩, ⟨.err, "  at 1:6: x = (1\n"⟩,
        ⟨.err, "  at 1:6: x = (1\n"⟩, ⟨.err, "  at 2:3: 2))\n"⟩] := by
  decide +kernel

theorem tornTree_told_in_order :
    let engine : Engine := ⟨.ok fun _ => .ok tornTree⟩
    let outcome := run engine tornFiles {} ⟨false⟩ ["torn.py"] false
    Ordered tornTree ∧ InSourceOrder (errors tornTree) ∧
      ∃ summary, outcome.pieces =
        [⟨.err, "✗ torn.py: Syntax error in Python code\n"⟩, ⟨.err, "  at 1:4: x = (1\n"⟩,
          ⟨.err, "  at 1:6: x = (1\n"⟩, ⟨.err, "  at 1:6: x = (1\n"⟩,
          ⟨.err, "  at 2:3: 2))\n"⟩, ⟨.out, summary⟩] := by
  intro engine outcome
  have hc : engine.create = .ok fun _ => .ok tornTree := rfl
  have hr : tornFiles.readText "torn.py" = .ok tornText := by decide +kernel
  have hfound : discover tornFiles ["torn.py"] = .ok ["torn.py"] := rfl
  obtain ⟨hgeneral, hcheck⟩ := errors_told_in_source_order
  obtain ⟨told, summary, hpieces, htold⟩ := hcheck hc tornFiles {} ⟨false⟩ _ _ hfound
  obtain ⟨hlines, -⟩ := htold "torn.py" tornText tornTree hr rfl
  refine ⟨ordered_tornTree, hgeneral tornTree ordered_tornTree, summary, ?_⟩
  rw [List.flatMap_singleton, hlines, headline_tornTree, errors_tornTree] at hpieces
  rw [hpieces, map_tornSpans]
  rfl

end Command.Check

end EnclosingScope
