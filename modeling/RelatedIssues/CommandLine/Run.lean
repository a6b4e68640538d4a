import RelatedIssues.CommandLine.Arguments
import RelatedIssues.CommandLine.Doctor
import RelatedIssues.CommandLine.Export
import RelatedIssues.Resolution.Report
import RelatedIssues.Resolution.Resolve

namespace RelatedIssues.Command

-- The level at which a command opens the log. Only failures are worth a line beside a result in JSON.
def logWord (o : ResolveOptions) (s : Settings) : String :=
  if o.asJson then "WARNING" else s.logLevel

-- Why the file with a result cannot be written.
def outputFault? (around : Surroundings) (o : ResolveOptions) (r : Resolution) : Option Failure :=
  o.output.bind fun place => around.disk.refusal? (.ofText place) r.file

def present (o : ResolveOptions) (log : Log) (r : Resolution) : Outcome where
  exitCode := if r.hasFailed then 1 else 0
  output   := if o.asJson then r.line else ""
  console  := if o.asJson then [] else [banner, r.table, r.panel]
  files    := o.output.toList.map fun place => ((Location.ofText place).text, r.file)
  log      := log

def runResolve (around : Surroundings) (o : ResolveOptions) : Dialogue Outcome :=
  match Settings.load around.sources with
  | .error f => .done (.failed f around.log)
  | .ok settings =>
    match around.log.configure (logWord o settings) with
    | .error f => .done (.failed f around.log.opened)
    | .ok log =>
      (Resolution.resolve around.clock (.ok settings)
        { operator := o.operator, arguments := [o.argument] }).bind fun
        | .error f => .done (.failed f log)
        | .ok r =>
          match outputFault? around o r with
          | some f => .done (.failed f log)
          | none => .done (present o log r)

def execute (around : Surroundings) : Command → Dialogue Outcome
  | .resolve o => runResolve around o
  | .checkUp => Doctor.checkUp around
  | .setUp => .done (Doctor.setUp around)

def run (around : Surroundings) (words : List String) : Dialogue Outcome :=
  match ofWords words with
  | .error usage =>
    .done { exitCode := usage.exitCode, failure := usage.failure?, log := around.log }
  | .ok command => (command.execute around).map (·.shownOn around.terminal)

end RelatedIssues.Command
