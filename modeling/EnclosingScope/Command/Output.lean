import EnclosingScope.Decimal.Digits

namespace EnclosingScope.Command

inductive Stream where
  | out
  | err
  deriving DecidableEq, Repr

structure Piece where
  stream : Stream
  text : String
  deriving DecidableEq, Repr

structure Outcome where
  code : UInt8
  pieces : List Piece
  deriving DecidableEq, Repr

def textOn (stream : Stream) (pieces : List Piece) : String :=
  String.join ((pieces.filter (·.stream = stream)).map (·.text))

namespace Outcome

def stdout (o : Outcome) : String := textOn .out o.pieces

def stderr (o : Outcome) : String := textOn .err o.pieces

def after (o : Outcome) (pieces : List Piece) : Outcome :=
  { o with pieces := pieces ++ o.pieces }

end Outcome

structure Failure where
  message : String
  causes : List String
  deriving DecidableEq, Repr

namespace Failure

def indented (mark : Option Nat) (cause : String) : String :=
  let first := match mark with
    | none => "    "
    | some n =>
        let digits := Decimal.digits n
        String.ofList (List.replicate (5 - digits.length) ' ' ++ digits) ++ ": "
  let later := if mark.isSome then "\n       " else "\n    "
  first ++ String.ofList (cause.toList.flatMap fun c => if c = '\n' then later.toList else [c])

def text (f : Failure) : String :=
  let many := 1 < f.causes.length
  let causes := f.causes.zipIdx.map fun (cause, n) =>
    "\n" ++ indented (if many then some n else none) cause
  "Error: " ++ f.message
    ++ (if f.causes.isEmpty then "" else "\n\nCaused by:" ++ String.join causes) ++ "\n"

def outcome (f : Failure) : Outcome :=
  ⟨1, [⟨.err, f.text⟩]⟩

end Failure

structure Paint where
  on : Bool

namespace Paint

def coded (p : Paint) (code text : String) : String :=
  if p.on then "\x1b[" ++ code ++ "m" ++ text ++ "\x1b[0m" else text

def bold (p : Paint) : String → String := p.coded "1"

def red (p : Paint) : String → String := p.coded "31"

def green (p : Paint) : String → String := p.coded "32"

def cyan (p : Paint) : String → String := p.coded "36"

end Paint

end EnclosingScope.Command
