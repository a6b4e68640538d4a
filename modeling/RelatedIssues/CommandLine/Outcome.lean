import RelatedIssues.Clock
import RelatedIssues.CommandLine.Export
import RelatedIssues.Console.Item
import RelatedIssues.Log
import RelatedIssues.Settings.Sources

namespace RelatedIssues

-- What a terminal fails on: texts that it cannot print, and items that it cannot draw.
structure Terminal where
  textFault? : String → Option Failure := fun _ => none
  itemFault? : ConsoleItem → Option Failure := fun _ => none

structure Surroundings where
  sources   : Settings.Sources := {}
  userPlace : String := ".env"
  input     : String := ""
  clock     : Clock := .ofList []
  log       : Log := {}
  disk      : Disk := {}
  terminal  : Terminal := {}

-- What a command leaves behind. A failure that no command expects ends it with code one.
structure Outcome where
  exitCode : Nat := 0
  failure  : Option Failure := none
  output   : String := ""
  console  : List ConsoleItem := []
  files    : Table String := []
  userFile : Option String := none
  log      : Log := {}

namespace Outcome

def failed (f : Failure) (log : Log) : Outcome :=
  { exitCode := 1, failure := some f, log }

-- The first failure of a terminal that is to show this.
def fault? (t : Terminal) (left : Outcome) : Option Failure :=
  (if left.output = "" then none else t.textFault? left.output).or (left.console.findSome? t.itemFault?)

-- What is left behind on a terminal. A command prints a text or draws items, and does so at its end: if this fails,
-- then files have been written, and what has been drawn stands before the item that cannot be drawn.
def shownOn (t : Terminal) (left : Outcome) : Outcome :=
  match left.fault? t with
  | none => left
  | some f =>
    { left with
      exitCode := 1
      failure  := some f
      output   := ""
      console  := left.console.takeWhile fun item => (t.itemFault? item).isNone }

variable {t : Terminal} {left : Outcome} {f : Failure} {log : Log}

end Outcome
end RelatedIssues
