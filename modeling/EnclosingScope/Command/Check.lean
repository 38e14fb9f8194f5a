import EnclosingScope.Command.Find
import EnclosingScope.Files.Discovery
import EnclosingScope.Text.Blank
import EnclosingScope.Text.Lines

namespace EnclosingScope.Command

open Files EnclosingScope.Tree

namespace Check

structure Finding where
  file : Path
  verdict : Verdict
  text : Option String
  entries : List Log.Entry := []

def finding (files : Access) (finder : Finder) (file : Path) : Finding :=
  match files.readText file with
  | .ok text =>
      let ⟨verdict, entries⟩ := finder.verdict text
      ⟨file, verdict, some text, entries⟩
  | .error e =>
      ⟨file, .rejected ("failed to read file: " ++ e.message), none,
        [⟨.warn, programSource, "failed to read " ++ file.shown ++ ": " ++ e.message⟩]⟩

def errorLine (text : String) (span : ErrorSpan) : String :=
  "  at " ++ Decimal.text span.start.line.toNat ++ ":" ++ Decimal.text span.start.column.toNat
    ++ ": " ++ Text.trim (Text.lineText text span.start) ++ "\n"

def errorLines (finder : Finder) (text : String) : List String :=
  match finder.errors text with
  | .ok spans => spans.map (errorLine text)
  | .error _ => []

def human (finder : Finder) (paint : Paint) (f : Finding) : List Piece :=
  if f.verdict.valid then [⟨.out, paint.green "✓" ++ " " ++ f.file.shown ++ "\n"⟩]
  else
    let below := match f.text with | some text => errorLines finder text | none => []
    ⟨.err, paint.red "✗" ++ " " ++ f.file.shown ++ ": " ++ f.verdict.error ++ "\n"⟩
      :: below.map fun line => ⟨.err, line⟩

def toJson (f : Finding) : Json.Value :=
  .object
    [("error", .string f.verdict.error), ("file", .string f.file.shown),
     ("valid", .boolean f.verdict.valid)]

def json (f : Finding) : List Piece :=
  [⟨.out, (toJson f).compact ++ "\n"⟩]

structure Tally where
  valid : Int32 := 0
  invalid : Int32 := 0
  pieces : List Piece := []

def tell (finder : Finder) (filter : LogFilter) (paint : Paint) (asJson : Bool) (t : Tally)
    (f : Finding) : Tally :=
  let told := filter.pieces f.entries ++ (if asJson then json f else human finder paint f)
  if f.verdict.valid then { t with valid := t.valid + 1, pieces := t.pieces ++ told }
  else { t with invalid := t.invalid + 1, pieces := t.pieces ++ told }

def tally (files : Access) (finder : Finder) (filter : LogFilter) (paint : Paint)
    (asJson : Bool) (found : List Path) : Tally :=
  found.foldl (fun t file => tell finder filter paint asJson t (finding files finder file)) {}

def summary (paint : Paint) (t : Tally) : String :=
  "\n" ++ paint.bold "Summary:" ++ "\n"
    ++ "  " ++ paint.green (Decimal.intText t.valid.toInt) ++ " valid\n"
    ++ "  " ++ paint.red (Decimal.intText t.invalid.toInt) ++ " invalid\n"

def report (files : Access) (finder : Finder) (filter : LogFilter) (paint : Paint)
    (asJson : Bool) (found : List Path) : Outcome :=
  let t := tally files finder filter paint asJson found
  let last := if asJson then [] else [⟨.out, summary paint t⟩]
  ⟨if 0 < t.invalid then 1 else 0, t.pieces ++ last⟩

def walkFailure (e : WalkError) : Failure := ⟨e.message, [e.error.message]⟩

def run (engine : Python.Engine) (files : Access) (filter : LogFilter) (paint : Paint)
    (paths : List Path) (asJson : Bool) : Outcome :=
  match discover files paths with
  | .error e => (walkFailure e).outcome
  | .ok found =>
      match Finder.create engine .scopes with
      | .error e => (Find.Error.finder e).failure.outcome
      | .ok finder => report files finder filter paint asJson found

end Check

end EnclosingScope.Command
