import RelatedIssues.CommandLine.Run
import RelatedIssues.Proofs.Resolution.FailClosed
import RelatedIssues.Proofs.Resolution.OverHttp
import RelatedIssues.Proofs.Resolution.Payload
import RelatedIssues.Proofs.Search.Responses

namespace RelatedIssues

namespace Resolution

end Resolution

-- The words of a command line that give these options. The last word is an argument, whatever it looks like.
def ResolveOptions.words (o : ResolveOptions) : List String :=
  ["resolve", "--operator", o.operator] ++ (if o.asJson then ["--json"] else []) ++
    o.output.toList.flatMap (["--output", ·]) ++ ["--", o.argument]

-- The call of the query function that a command stands for.
def ResolveOptions.invocation (o : ResolveOptions) : Invocation where
  operator  := o.operator
  arguments := [o.argument]

namespace Command

variable {σ : Type} {client : Client σ} {s : σ} {around : Surroundings} {o : ResolveOptions} {settings : Settings}
  {log : Log} {r : Resolution} {xs : List Exchange}

section

variable {words : List String} (hw : ofWords words = .ok (.resolve o))
  (hl : Settings.load around.sources = .ok settings) (hg : around.log.configure (logWord o settings) = .ok log)

include hw hl hg

end

end Command
end RelatedIssues
