import EnclosingScope.Command.Arguments
import EnclosingScope.Command.Check

namespace EnclosingScope.Command

structure Environment where
  logSetting : Option String := none
  forceColour : Option String := none

namespace Environment

def paint (e : Environment) : Paint :=
  match e.forceColour with
  | some value => ⟨value ≠ "0"⟩
  | none => ⟨false⟩

end Environment

def Stop.outcome : Stop → Outcome
  | help text => ⟨0, [⟨.out, text⟩]⟩
  | noRequest text => ⟨2, [⟨.err, text⟩]⟩
  | version => ⟨0, [⟨.out, Interface.releaseText⟩]⟩
  | refused refusal => ⟨2, [⟨.err, refusal.message⟩]⟩

def Request.run (engine : Python.Engine) (files : Files.Access) (e : Environment)
    (r : Request) (refuse : Toml.Refusal) : Outcome :=
  let (filter, warnings) := LogFilter.ofSetting e.logSetting r.verbose
  let outcome := match loadConfig? files refuse r.config with
    | .error e => e.failure.outcome
    | .ok config =>
        match r.task with
        | .find file start stop json =>
            Find.run engine files filter e.paint config file start (stop.getD start) json
        | .check paths json =>
            Check.run engine files filter e.paint (paths.map Files.Path.ofText) json
  outcome.after warnings

def run (engine : Python.Engine) (files : Files.Access) (e : Environment)
    (arguments : List String) (refuse : Toml.Refusal := .silent) : Outcome :=
  match Request.ofArguments arguments with
  | .error stop => stop.outcome
  | .ok request => request.run engine files e refuse

end EnclosingScope.Command
