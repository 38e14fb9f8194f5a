import EnclosingScope.Proofs.LineRange
import EnclosingScope.Proofs.Search.Pruned
import EnclosingScope.Session

namespace EnclosingScope

open EnclosingScope.Tree Python Log

def Python.Engine.Reads (engine : Engine) (tree : String → SyntaxTree) : Prop :=
  engine.create = .ok fun text => .ok (tree text)

def enclosingRecord (kinds : KindSet) (r : LineRange) (tree : SyntaxTree) : Option NodeRecord :=
  (Search.enclosing r kinds tree).map NodeRecord.ofNode

def linesText (first last : UInt64) : String :=
  Decimal.text first.toNat ++ "-" ++ Decimal.text last.toNat

def answerEntry (r : LineRange) (found : Option NodeRecord) : Entry :=
  ⟨.debug, "enclosing_context::backend",
    match found with
    | some node =>
        "lines " ++ linesText r.start r.stop ++ " enclosed by " ++ node.kind ++ " at "
          ++ linesText node.location.start.line node.location.stop.line
    | none => "no enclosing context for lines " ++ linesText r.start r.stop⟩

def invalidEntry (start stop : UInt64) : Entry :=
  ⟨.warn, "enclosing_context::backend", InvalidRange.message ⟨start, stop⟩⟩

structure Session.AnswersPlainly (engine : Engine) (tree : String → SyntaxTree) (kinds : KindSet)
    (s : Session) : Prop where
  attempt : ∀ text (r : LineRange),
    (s.ask engine (.attempt text r.start r.stop)).1 =
      ⟨.attempt (.ok (enclosingRecord kinds r (tree text))),
        [answerEntry r (enclosingRecord kinds r (tree text))]⟩
  find : ∀ text (r : LineRange),
    (s.ask engine (.find text r.start r.stop)).1 =
      ⟨.enclosure ⟨enclosingRecord kinds r (tree text)⟩,
        [answerEntry r (enclosingRecord kinds r (tree text))]⟩
  pooledAttempt : ∀ text (r : LineRange),
    (s.ask engine (.pooledAttempt text r.start r.stop)).1 =
      ⟨.attempt (.ok (enclosingRecord .scopes r (tree text))), []⟩
  findFresh : ∀ text (r : LineRange),
    findFresh engine text r.start r.stop =
      ⟨⟨enclosingRecord .scopes r (tree text)⟩,
        [answerEntry r (enclosingRecord .scopes r (tree text))]⟩
  attempt_invalid : ∀ text start stop, start = 0 ∨ stop < start →
    (s.ask engine (.attempt text start stop)).1 = ⟨.attempt (.error (.range ⟨start, stop⟩)), []⟩
  find_invalid : ∀ text start stop, start = 0 ∨ stop < start →
    (s.ask engine (.find text start stop)).1 = ⟨.enclosure ⟨none⟩, [invalidEntry start stop]⟩
  pooledAttempt_invalid : ∀ text start stop, start = 0 ∨ stop < start →
    (s.ask engine (.pooledAttempt text start stop)).1 =
      ⟨.attempt (.error (.range ⟨start, stop⟩)), []⟩
  findFresh_invalid : ∀ text start stop, start = 0 ∨ stop < start →
    EnclosingScope.findFresh engine text start stop = ⟨⟨none⟩, [invalidEntry start stop]⟩
  verdict : ∀ text,
    (s.ask engine (.verdict text)).1 = ⟨.verdict (.ofTree (tree text)), []⟩
  pooledVerdict : ∀ text,
    (s.ask engine (.pooledVerdict text)).1 = ⟨.verdict (.ofTree (tree text)), []⟩
  verdictFresh : ∀ text, Verdict.fresh engine text = ⟨.ofTree (tree text), []⟩
  errors : ∀ text,
    (s.ask engine (.errors text)).1 = ⟨.errors (.ok (SyntaxNode.errors (tree text))), []⟩
  kinds : (s.ask engine .kinds).1 = ⟨.kinds kinds, []⟩

variable {engine : Engine} {tree : String → SyntaxTree} {kinds : KindSet}

namespace Finder

def plain (tree : String → SyntaxTree) (kinds : KindSet) : Finder :=
  ⟨fun text => .ok (tree text), kinds⟩

theorem create_eq (h : engine.Reads tree) : create engine kinds = .ok (plain tree kinds) := by
  rw [create, h]
  rfl

theorem foundText_eq (r : LineRange) (found : Option NodeRecord) :
    foundText r found = (answerEntry r found).text := by
  cases found with
  | none => rfl
  | some node =>
      unfold foundText answerEntry linesText LineRange.text NodeRecord.startLine NodeRecord.stopLine
      dsimp only
      simp only [String.append_assoc]

theorem plain_attempt (text : String) (r : LineRange) :
    (plain tree kinds).attempt text r =
      ⟨.ok (enclosingRecord kinds r (tree text)),
        [answerEntry r (enclosingRecord kinds r (tree text))]⟩ := by
  have hs : search (plain tree kinds).parser (plain tree kinds).kinds text r =
      .ok (enclosingRecord kinds r (tree text)) := rfl
  rw [attempt, hs]
  simp only [foundText_eq]
  rfl

theorem plain_find (text : String) (r : LineRange) :
    (plain tree kinds).find text r.start r.stop =
      ⟨⟨enclosingRecord kinds r (tree text)⟩,
        [answerEntry r (enclosingRecord kinds r (tree text))]⟩ := by
  rw [find, r.ofLines_ends]
  simp only [plain_attempt]

theorem find_of_invalid (finder : Finder) (text : String) {start stop : UInt64}
    (h : start = 0 ∨ stop < start) :
    finder.find text start stop = ⟨⟨none⟩, [invalidEntry start stop]⟩ := by
  rw [find, LineRange.ofLines_of_invalid h]
  rfl

end Finder

theorem findFresh_eq (h : engine.Reads tree) (text : String) (start stop : UInt64) :
    findFresh engine text start stop = (Finder.plain tree .scopes).find text start stop := by
  rw [findFresh, Finder.create_eq h]

theorem Verdict.fresh_eq (h : engine.Reads tree) (text : String) :
    Verdict.fresh engine text = ⟨.ofTree (tree text), []⟩ := by
  rw [fresh, h]
  rfl

structure Session.Steady (tree : String → SyntaxTree) (kinds : KindSet) (s : Session) : Prop where
  finder : s.finder = Finder.plain tree kinds
  pool : s.pool.parser = none ∨ s.pool.parser = some fun text => .ok (tree text)

theorem Pool.acquire_eq (h : engine.Reads tree) {pool : Pool}
    (hp : pool.parser = none ∨ pool.parser = some fun text => .ok (tree text)) :
    pool.acquire engine =
      .ok (fun text => .ok (tree text), ⟨some fun text => .ok (tree text)⟩) := by
  rcases hp with hp | hp
  · rw [acquire, hp, h]
    rfl
  · obtain ⟨parser⟩ := pool
    cases hp
    rfl

namespace Session

theorem create_steady (h : engine.Reads tree) (kinds : KindSet) :
    ∃ s, create engine kinds = .ok s ∧ Steady tree kinds s := by
  refine ⟨{ finder := .plain tree kinds }, ?_, rfl, .inl rfl⟩
  rw [create, Finder.create_eq h]
  rfl

namespace Steady

variable {s fresh : Session}

theorem next (hs : Steady tree kinds s) (h : engine.Reads tree) (query : Query) :
    Steady tree kinds (s.ask engine query).2 := by
  have hpool := Pool.acquire_eq h hs.pool
  cases query with
  | find text start stop => exact hs
  | attempt text start stop =>
      simp only [ask]
      split <;> exact hs
  | pooledAttempt text start stop =>
      simp only [ask]
      split
      · exact hs
      · simp only [Pool.attempt, hpool]
        exact ⟨hs.finder, .inr rfl⟩
  | verdict text => exact hs
  | pooledVerdict text =>
      simp only [ask, Pool.verdict, hpool]
      exact ⟨hs.finder, .inr rfl⟩
  | errors text => exact hs
  | kinds => exact hs

theorem same_answer (hs : Steady tree kinds s) (hf : Steady tree kinds fresh)
    (h : engine.Reads tree) (query : Query) :
    (s.ask engine query).1 = (fresh.ask engine query).1 := by
  have hpool := Pool.acquire_eq h hs.pool
  have hpool' := Pool.acquire_eq h hf.pool
  cases query with
  | find text start stop => simp only [ask, hs.finder, hf.finder]
  | attempt text start stop =>
      simp only [ask, hs.finder, hf.finder]
      split <;> rfl
  | pooledAttempt text start stop =>
      simp only [ask, Pool.attempt, hpool, hpool']
      split <;> rfl
  | verdict text => simp only [ask, hs.finder, hf.finder]
  | pooledVerdict text => simp only [ask, Pool.verdict, hpool, hpool']
  | errors text => simp only [ask, hs.finder, hf.finder]
  | kinds => simp only [ask, hs.finder, hf.finder]

theorem run (hs : Steady tree kinds s) (hf : Steady tree kinds fresh) (h : engine.Reads tree)
    (queries : List Query) :
    (s.askAll engine queries).1 = queries.map (fun query => (fresh.ask engine query).1) ∧
      Steady tree kinds (s.askAll engine queries).2 := by
  induction queries generalizing s with
  | nil => exact ⟨rfl, hs⟩
  | cons query queries ih =>
      obtain ⟨ha, hs'⟩ := ih (hs.next h query)
      exact ⟨congrArg₂ List.cons (hs.same_answer hf h query) ha, hs'⟩

theorem answersPlainly (hs : Steady tree kinds s) (h : engine.Reads tree) :
    AnswersPlainly engine tree kinds s where
  attempt text r := by
    simp only [ask, r.ofLines_ends, hs.finder, Finder.plain_attempt]
  find text r := by
    simp only [ask, hs.finder, Finder.plain_find]
  pooledAttempt text r := by
    simp only [ask, r.ofLines_ends, Pool.attempt, Pool.acquire_eq h hs.pool]
    rfl
  findFresh text r := by
    rw [findFresh_eq h, Finder.plain_find]
  attempt_invalid text start stop hi := by
    simp only [ask, LineRange.ofLines_of_invalid hi]
  find_invalid text start stop hi := by
    simp only [ask, Finder.find_of_invalid _ _ hi]
  pooledAttempt_invalid text start stop hi := by
    simp only [ask, LineRange.ofLines_of_invalid hi]
  findFresh_invalid text start stop hi := by
    rw [findFresh_eq h, Finder.find_of_invalid _ _ hi]
  verdict text := by
    simp only [ask, hs.finder]
    rfl
  pooledVerdict text := by
    simp only [ask, Pool.verdict, Pool.acquire_eq h hs.pool]
    rfl
  verdictFresh := Verdict.fresh_eq h
  errors text := by
    simp only [ask, hs.finder]
    rfl
  kinds := by
    simp only [ask, hs.finder]
    rfl

end Steady

end Session

theorem session_answers_plainly (h : engine.Reads tree) (kinds : KindSet) :
    ∃ s, Session.create engine kinds = .ok s ∧
      (∀ queries : List Query,
        (s.askAll engine queries).1 = queries.map (fun query => (s.ask engine query).1) ∧
        (s.askAll engine queries).2.finder.kinds = kinds) ∧
      s.AnswersPlainly engine tree kinds := by
  obtain ⟨s, hc, hs⟩ := Session.create_steady h kinds
  refine ⟨s, hc, fun queries => ?_, hs.answersPlainly h⟩
  obtain ⟨ha, hs'⟩ := hs.run hs h queries
  refine ⟨ha, ?_⟩
  rw [hs'.finder]
  rfl

def conditionalSource : String := "if x:\n    y\n"

def conditionalTree : SyntaxTree :=
  .node "module" ⟨0, 0⟩ ⟨2, 0⟩ false
    [.node "if_statement" ⟨0, 0⟩ ⟨1, 5⟩ false
      [.leaf "if" ⟨0, 0⟩ ⟨0, 2⟩, .leaf "identifier" ⟨0, 3⟩ ⟨0, 4⟩, .leaf ":" ⟨0, 4⟩ ⟨0, 5⟩,
       .node "block" ⟨1, 4⟩ ⟨1, 5⟩ false
        [.node "expression_statement" ⟨1, 4⟩ ⟨1, 5⟩ false
          [.leaf "identifier" ⟨1, 4⟩ ⟨1, 5⟩]]]]

def sampleTree (text : String) : SyntaxTree :=
  if text = conditionalSource then conditionalTree else .leaf "module" ⟨0, 0⟩ ⟨0, 0⟩

def conditionalRecord : NodeRecord where
  kind := "if_statement"
  location := ⟨⟨1, 0⟩, ⟨2, 5⟩⟩

theorem enclosingRecord_conditionalTree :
    enclosingRecord .scopes ⟨2, 2, by decide, by decide⟩ conditionalTree =
      some conditionalRecord := by
  have hm : "module" ∉ KindSet.scopes := by decide +kernel
  have hi : "if_statement" ∈ KindSet.scopes := by decide +kernel
  have hw : SyntaxNode.WellNested conditionalTree := by
    simp [conditionalTree, SyntaxTree.leaf, Point.le_iff]
  rw [enclosingRecord, Search.enclosing_eq_pruned hw]
  simp [conditionalTree, SyntaxTree.leaf, Point.line, Search.prefer, hm, hi, NodeRecord.ofNode,
    Position.ofPoint, conditionalRecord]

theorem answerEntry_conditionalRecord :
    answerEntry ⟨2, 2, by decide, by decide⟩ (some conditionalRecord) =
      ⟨.debug, "enclosing_context::backend", "lines 2-2 enclosed by if_statement at 1-2"⟩ := by
  have hone : Decimal.text 1 = "1" := by
    rw [Decimal.text, Decimal.digits]
    rfl
  have htwo : Decimal.text 2 = "2" := by
    rw [Decimal.text, Decimal.digits]
    rfl
  unfold answerEntry linesText conditionalRecord
  simp only [UInt64.reduceToNat, hone, htwo]
  rfl

theorem sampleTree_session :
    let engine : Engine := ⟨.ok fun text => .ok (sampleTree text)⟩
    engine.Reads sampleTree ∧ ∃ s, Session.create engine .scopes = .ok s ∧
      (s.askAll engine
        [.pooledVerdict "", .find conditionalSource 2 1, .attempt conditionalSource 2 2]).1 =
        [⟨.verdict .accepted, []⟩,
         ⟨.enclosure ⟨none⟩, [invalidEntry 2 1]⟩,
         ⟨.attempt (.ok (some conditionalRecord)), [⟨.debug, "enclosing_context::backend",
          "lines 2-2 enclosed by if_statement at 1-2"⟩]⟩] := by
  intro engine
  have hr : engine.Reads sampleTree := rfl
  obtain ⟨s, hc, hrun, hplain⟩ := session_answers_plainly hr .scopes
  refine ⟨hr, s, hc, ?_⟩
  have hempty : Verdict.ofTree (sampleTree "") = .accepted := by
    have he : sampleTree "" = .leaf "module" ⟨0, 0⟩ ⟨0, 0⟩ := by decide
    rw [he, Verdict.ofTree, SyntaxNode.hasErrors_eq]
    rfl
  have hsource : sampleTree conditionalSource = conditionalTree := if_pos rfl
  have hv := hplain.pooledVerdict ""
  have hf := hplain.find_invalid conditionalSource 2 1 (.inr (by decide))
  have ha := hplain.attempt conditionalSource ⟨2, 2, by decide, by decide⟩
  rw [hempty] at hv
  rw [hsource, enclosingRecord_conditionalTree, answerEntry_conditionalRecord] at ha
  rw [(hrun _).1]
  exact congrArg₂ List.cons hv (congrArg₂ List.cons hf (congrArg₂ List.cons ha rfl))

end EnclosingScope
