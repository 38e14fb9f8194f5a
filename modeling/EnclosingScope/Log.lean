namespace EnclosingScope

namespace Log

inductive Level where
  | error
  | warn
  | info
  | debug
  | trace
  deriving DecidableEq, Repr

def Level.rank : Level → Nat
  | error => 1
  | warn => 2
  | info => 3
  | debug => 4
  | trace => 5

def Level.name : Level → String
  | error => "ERROR"
  | warn => "WARN"
  | info => "INFO"
  | debug => "DEBUG"
  | trace => "TRACE"

structure Entry where
  level : Level
  source : String
  text : String
  deriving DecidableEq, Repr

end Log

structure Logged (α : Type) where
  result : α
  entries : List Log.Entry := []

end EnclosingScope
