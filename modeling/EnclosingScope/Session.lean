import EnclosingScope.Finder

namespace EnclosingScope

open EnclosingScope.Tree Python Log

structure Pool where
  parser : Option Parser := none

namespace Pool

def acquire (engine : Engine) (pool : Pool) : Except ParseError (Parser × Pool) :=
  match pool.parser with
  | some parser => .ok (parser, pool)
  | none => do
      let parser ← engine.create
      return (parser, ⟨some parser⟩)

def attempt (engine : Engine) (pool : Pool) (text : String) (r : LineRange) :
    Except QueryError (Option NodeRecord) × Pool :=
  match pool.acquire engine with
  | .error e => (.error (.parse e), {})
  | .ok (parser, pool) => (Finder.search parser .scopes text r, pool)

def verdict (engine : Engine) (pool : Pool) (text : String) : Logged Verdict × Pool :=
  match pool.acquire engine with
  | .error e => (Verdict.ofFailure e, {})
  | .ok (parser, pool) => (Verdict.ofSource parser text, pool)

end Pool

structure Session where
  finder : Finder
  pool : Pool := {}

inductive Query where
  | find (text : String) (start stop : UInt64)
  | attempt (text : String) (start stop : UInt64)
  | pooledAttempt (text : String) (start stop : UInt64)
  | verdict (text : String)
  | pooledVerdict (text : String)
  | errors (text : String)
  | kinds

inductive Answer where
  | enclosure (e : Enclosure)
  | attempt (result : Except QueryError (Option NodeRecord))
  | verdict (v : Verdict)
  | errors (result : Except ParseError (List ErrorSpan))
  | kinds (set : KindSet)

namespace Session

def create (engine : Engine) (kinds : KindSet) : Except ParseError Session := do
  return { finder := ← Finder.create engine kinds }

def ask (engine : Engine) (s : Session) : Query → Logged Answer × Session
  | .find text start stop =>
      let ⟨e, entries⟩ := s.finder.find text start stop
      (⟨.enclosure e, entries⟩, s)
  | .attempt text start stop =>
      match LineRange.ofLines start stop with
      | .error e => (⟨.attempt (.error (.range e)), []⟩, s)
      | .ok r =>
          let ⟨result, entries⟩ := s.finder.attempt text r
          (⟨.attempt result, entries⟩, s)
  | .pooledAttempt text start stop =>
      match LineRange.ofLines start stop with
      | .error e => (⟨.attempt (.error (.range e)), []⟩, s)
      | .ok r =>
          let (result, pool) := s.pool.attempt engine text r
          (⟨.attempt result, []⟩, { s with pool })
  | .verdict text =>
      let ⟨v, entries⟩ := s.finder.verdict text
      (⟨.verdict v, entries⟩, s)
  | .pooledVerdict text =>
      let (⟨v, entries⟩, pool) := s.pool.verdict engine text
      (⟨.verdict v, entries⟩, { s with pool })
  | .errors text => (⟨.errors (s.finder.errors text), []⟩, s)
  | .kinds => (⟨.kinds s.finder.kinds, []⟩, s)

def askAll (engine : Engine) (s : Session) : List Query → List (Logged Answer) × Session
  | [] => ([], s)
  | query :: queries =>
      let (answer, s) := s.ask engine query
      let (answers, s) := s.askAll engine queries
      (answer :: answers, s)

end Session

end EnclosingScope
