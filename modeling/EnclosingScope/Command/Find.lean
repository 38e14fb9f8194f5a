import EnclosingScope.Finder
import EnclosingScope.Command.LogFilter
import EnclosingScope.Config
import EnclosingScope.Files.Access

namespace EnclosingScope.Command

open Files

inductive ConfigError where
  | access (path : String) (e : AccessError)
  | fault (path : Option String) (f : ConfigFault)
  deriving DecidableEq, Repr

namespace ConfigError

def inBrackets : Option String → String
  | some path => " (" ++ path ++ ")"
  | none => ""

def message : ConfigError → String
  | access path e => "failed to read finder config from " ++ path ++ ": " ++ e.message
  | fault path (.invalid issues) =>
      "invalid finder config" ++ inBrackets path ++ ": " ++ Issue.messages issues
  | fault path f => "failed to parse finder config TOML" ++ inBrackets path ++ ": " ++ f.message

def cause : ConfigError → String
  | access _ e => e.message
  | fault _ f => f.message

def failure (e : ConfigError) : Failure := ⟨e.message, [e.cause]⟩

end ConfigError

def readConfig (text : String) (refuse : Toml.Refusal := .silent) : Except ConfigError Config :=
  (Config.ofText refuse text).mapError (.fault none)

def loadConfig (files : Access) (path : String) (refuse : Toml.Refusal := .silent) :
    Except ConfigError Config :=
  match files.readText path with
  | .error e => .error (.access path e)
  | .ok text => (Config.ofText refuse text).mapError (.fault (some path))

def loadConfig? (files : Access) (refuse : Toml.Refusal) :
    Option String → Except ConfigError Config
  | some path => loadConfig files path refuse
  | none => .ok {}

def programSource : String := "enclosing_context"

namespace Find

inductive Error where
  | finder (e : Python.ParseError)
  | range (e : InvalidRange)
  | file (path : String) (e : AccessError)
  | parse (path : String) (e : QueryError)
  deriving DecidableEq, Repr

def Error.failure : Error → Failure
  | finder e => ⟨e.message, []⟩
  | range e => ⟨e.message, []⟩
  | file path e => ⟨"failed to read " ++ path, [e.message]⟩
  | parse path e =>
      let below := match e with | .parse e => [e.message] | .range _ => []
      ⟨"failed to parse " ++ path, e.message :: below⟩

structure Answer where
  range : LineRange
  node : Option NodeRecord

def position (p : Position) : String :=
  Decimal.text p.line.toNat ++ ":" ++ Decimal.text p.column.toNat

def human (paint : Paint) (a : Answer) : String :=
  match a.node with
  | some node =>
      paint.green "✓" ++ " " ++ paint.bold node.kind ++ " " ++ position node.location.start ++ "-"
        ++ position node.location.stop ++ "\n"
  | none => paint.cyan "⊘" ++ " no enclosing context for lines " ++ a.range.text ++ "\n"

def json (a : Answer) : String :=
  (Enclosure.mk a.node).toJson.pretty ++ "\n"

def answer (engine : Python.Engine) (files : Access) (config : Config) (file : String)
    (start stop : UInt64) : Logged (Except Error Answer) :=
  match LineRange.ofLines start stop with
  | .error e => ⟨.error (.range e), []⟩
  | .ok r =>
      match files.readText file with
      | .error e => ⟨.error (.file file e), []⟩
      | .ok text =>
          match Finder.create engine config.kinds with
          | .error e => ⟨.error (.finder e), []⟩
          | .ok finder =>
              match finder.attempt text r with
              | ⟨.error e, entries⟩ => ⟨.error (.parse file e), entries⟩
              | ⟨.ok node, entries⟩ => ⟨.ok ⟨r, node⟩, entries⟩

def run (engine : Python.Engine) (files : Access) (filter : LogFilter) (paint : Paint)
    (config : Config) (file : String) (start stop : UInt64) (asJson : Bool) : Outcome :=
  let ⟨result, entries⟩ := answer engine files config file start stop
  let outcome := match result with
    | .error e => e.failure.outcome
    | .ok a => ⟨0, [⟨.out, if asJson then json a else human paint a⟩]⟩
  outcome.after (filter.pieces entries)

end Find

end EnclosingScope.Command
