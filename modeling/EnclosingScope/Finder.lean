import EnclosingScope.Log
import EnclosingScope.Python
import EnclosingScope.Record

namespace EnclosingScope

open EnclosingScope.Tree Python Log

inductive QueryError where
  | range (e : InvalidRange)
  | parse (e : ParseError)
  deriving DecidableEq, Repr

def QueryError.message : QueryError → String
  | range e => e.message
  | parse e => "Tree-sitter error: " ++ e.message

structure Finder where
  parser : Parser
  kinds : KindSet

namespace Finder

def create (engine : Engine) (kinds : KindSet) : Except ParseError Finder := do
  return ⟨← engine.create, kinds⟩

def search (parser : Parser) (kinds : KindSet) (source : String) (r : LineRange) :
    Except QueryError (Option NodeRecord) :=
  match parser source with
  | .error e => .error (.parse e)
  | .ok tree => .ok ((Search.enclosing r kinds tree).map NodeRecord.ofNode)

def source : String := "enclosing_context::backend"

def foundText (r : LineRange) : Option NodeRecord → String
  | some node =>
      "lines " ++ r.text ++ " enclosed by " ++ node.kind ++ " at "
        ++ Decimal.text node.startLine.toNat ++ "-" ++ Decimal.text node.stopLine.toNat
  | none => "no enclosing context for lines " ++ r.text

def attempt (finder : Finder) (text : String) (r : LineRange) :
    Logged (Except QueryError (Option NodeRecord)) :=
  match search finder.parser finder.kinds text r with
  | .error e => ⟨.error e, []⟩
  | .ok node => ⟨.ok node, [⟨.debug, source, foundText r node⟩]⟩

def failureText (message : String) : String :=
  "Error parsing Python code: " ++ message

def find (finder : Finder) (text : String) (start stop : UInt64) : Logged Enclosure :=
  match LineRange.ofLines start stop with
  | .error e => ⟨Enclosure.none, [⟨.warn, source, e.message⟩]⟩
  | .ok r =>
      match finder.attempt text r with
      | ⟨.ok node, entries⟩ => ⟨⟨node⟩, entries⟩
      | ⟨.error e, entries⟩ =>
          ⟨Enclosure.none, entries ++ [⟨.error, source, failureText e.message⟩]⟩

end Finder

namespace Verdict

def source : String := "enclosing_context::validate"

def ofFailure (e : ParseError) : Logged Verdict :=
  ⟨rejected e.message, [⟨.error, source, Finder.failureText e.message⟩]⟩

def ofSource (parser : Parser) (text : String) : Logged Verdict :=
  match parser text with
  | .ok tree => ⟨ofTree tree, []⟩
  | .error e => ofFailure e

def fresh (engine : Engine) (text : String) : Logged Verdict :=
  match engine.create with
  | .ok parser => ofSource parser text
  | .error e => ofFailure e

end Verdict

namespace Finder

def verdict (finder : Finder) (text : String) : Logged Verdict :=
  Verdict.ofSource finder.parser text

def errors (finder : Finder) (text : String) : Except ParseError (List ErrorSpan) := do
  return SyntaxNode.errors (← finder.parser text)

end Finder

def findFresh (engine : Engine) (text : String) (start stop : UInt64) : Logged Enclosure :=
  match Finder.create engine .scopes with
  | .ok finder => finder.find text start stop
  | .error e =>
      ⟨Enclosure.none, [⟨.error, "enclosing_context", Finder.failureText e.message⟩]⟩

end EnclosingScope
