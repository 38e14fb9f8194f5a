namespace EnclosingScope.Command

inductive Effect where
  | flag
  | path (placeholder : String)
  | count (placeholder : String)
  | help
  | version
  deriving DecidableEq, Repr

structure Switch where
  name : String
  short : Option Char
  effect : Effect
  required : Bool := false
  deriving DecidableEq, Repr

structure Operand where
  name : String
  many : Bool
  deriving DecidableEq, Repr

structure Interface where
  path : String
  switches : List Switch
  operand : Option Operand
  commands : List String
  help : String

def Switch.text (s : Switch) : String :=
  match s.effect with
  | .path placeholder | .count placeholder => "--" ++ s.name ++ " <" ++ placeholder ++ ">"
  | _ => "--" ++ s.name

def Operand.text (o : Operand) : String :=
  "<" ++ o.name ++ ">" ++ (if o.many then "..." else "")

namespace Interface

def program : String := "enclosing-context"

def releaseText : String := program ++ " 0.1.0\n"

def config : Switch := ⟨"config", some 'c', .path "CONFIG", false⟩

def verbose : Switch := ⟨"verbose", some 'v', .flag, false⟩

def helpSwitch : Switch := ⟨"help", some 'h', .help, false⟩

def sharedHelp : String :=
  "  -v, --verbose          Enable debug logging (otherwise controlled by RUST_LOG)\n"

def configHelp : String :=
  "  -c, --config <CONFIG>  Finder configuration file (TOML)\n"

def top : Interface where
  path := program
  switches := [config, verbose, helpSwitch, ⟨"version", some 'V', .version, false⟩]
  operand := none
  commands := ["find", "check", "help"]
  help :=
    "Find the enclosing Python scope for a line range\n\n"
      ++ "Usage: enclosing-context [OPTIONS] <COMMAND>\n\n"
      ++ "Commands:\n"
      ++ "  find   Report the construct enclosing a line range\n"
      ++ "  check  Check Python files for syntax errors\n"
      ++ "  help   Print this message or the help of the given subcommand(s)\n\n"
      ++ "Options:\n" ++ configHelp ++ sharedHelp
      ++ "  -h, --help             Print help\n"
      ++ "  -V, --version          Print version\n"

def find : Interface where
  path := program ++ " find"
  switches :=
    [⟨"start", some 's', .count "START", true⟩, ⟨"end", some 'e', .count "END", false⟩,
     ⟨"json", none, .flag, false⟩, config, verbose, helpSwitch]
  operand := some ⟨"FILE", false⟩
  commands := []
  help :=
    "Report the construct enclosing a line range\n\n"
      ++ "Usage: enclosing-context find [OPTIONS] --start <START> <FILE>\n\n"
      ++ "Arguments:\n  <FILE>  Python source file\n\n"
      ++ "Options:\n" ++ configHelp
      ++ "  -s, --start <START>    First line of the range (1-indexed)\n"
      ++ "  -e, --end <END>        Last line of the range (defaults to --start)\n"
      ++ sharedHelp
      ++ "      --json             Print the result as JSON\n"
      ++ "  -h, --help             Print help\n"

def check : Interface where
  path := program ++ " check"
  switches := [⟨"json", none, .flag, false⟩, config, verbose, helpSwitch]
  operand := some ⟨"PATHS", true⟩
  commands := []
  help :=
    "Check Python files for syntax errors\n\n"
      ++ "Usage: enclosing-context check [OPTIONS] <PATHS>...\n\n"
      ++ "Arguments:\n"
      ++ "  <PATHS>...  Files or directories (directories are searched for .py files)\n\n"
      ++ "Options:\n" ++ configHelp
      ++ "      --json             Print results as JSON lines\n"
      ++ sharedHelp
      ++ "  -h, --help             Print help\n"

def helpUsage : String := "Usage: enclosing-context help [COMMAND]..."

def helpHelp : String :=
  "Print this message or the help of the given subcommand(s)\n\n" ++ helpUsage ++ "\n\n"
    ++ "Arguments:\n  [COMMAND]...  Print help for the subcommand(s)\n"

variable (i : Interface)

def required : List Switch := i.switches.filter (·.required)

def tail : String :=
  (match i.operand with | some o => " " ++ o.text | none => "")
    ++ (if i.commands.isEmpty then "" else " <COMMAND>")

def switchTexts (switches : List Switch) : String :=
  String.join (switches.map fun s => " " ++ s.text)

def usage : String :=
  "Usage: " ++ i.path ++ " [OPTIONS]" ++ switchTexts i.required ++ i.tail

def usageWith (given : List String) : String :=
  if given.isEmpty then i.usage
  else
    let others := given.filterMap fun name =>
      i.switches.find? fun s => s.name = name && !s.required
    "Usage: " ++ i.path ++ switchTexts (i.required ++ others) ++ i.tail

end Interface

end EnclosingScope.Command
