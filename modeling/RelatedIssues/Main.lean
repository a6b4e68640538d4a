import RelatedIssues.CommandLine.Run
import RelatedIssues.Json.Reader
import RelatedIssues.Search.Script
import RelatedIssues.Search.Wire

namespace RelatedIssues

def variableNames : List String :=
  (Settings.toJson default).fieldsD.map fun (name, _) =>
    (Settings.stem ++ name).map Char.toUpper

def readIfThere (place : String) : IO (Option String) := do
  try
    return some (← IO.FS.readFile place)
  catch _ =>
    return none

def readVariables : IO (Table String) :=
  variableNames.filterMapM fun name => do
    return (← IO.getEnv name).map fun value => (name, value)

def readMachine : IO Machine := do
  return {
    platform   := if (← IO.getEnv "OS") = some "Windows_NT" then "win32" else "linux"
    home       := (← IO.getEnv "HOME").getD ""
    configHome := ← IO.getEnv "XDG_CONFIG_HOME"
    appData    := ← IO.getEnv "APPDATA"
  }

def readSurroundings (userPlace : String) : IO Surroundings := do
  let sources : Settings.Sources := {
    environment := ← readVariables
    userFile    := ← readIfThere userPlace
    projectFile := ← readIfThere ".env"
  }
  return { sources, userPlace }

-- Sends a call and waits for its reply. A response that cannot be read has no status.
def send (service : Service) (call : Call) : IO Reply := do
  match Gateway.request service call with
  | .error f => return .error f
  | .ok r =>
    IO.eprintln (r.toJson.write .compact)
    let line ← (← IO.getStdin).getLine
    let arrival : Arrival := match Json.read line with
      | .ok j => .describedBy j
      | .error _ => .response { status := 0, body := line }
    return Gateway.receive call r arrival

-- The replies to the calls of a dialogue. Without a service every call fails.
def converse {α : Type} (service : Except Failure Service) : Dialogue α → IO (List (Call × Reply))
  | .done _ => return []
  | .tell _ rest => converse service rest
  | .ask call next => do
    let reply ← match service with
      | .ok service => send service call
      | .error f => pure (.error f)
    return (call, reply) :: (← converse service (next reply))

def Script.ofConversation (exchanges : List (Call × Reply)) : Script where
  enhanced := (exchanges.filter (!·.1.isLegacy)).map (·.2)
  legacy   := (exchanges.filter (·.1.isLegacy)).map (·.2)

def readSeconds : IO Double := do
  return .ofRatio false (← IO.monoMsNow) 1000

-- What a command leaves behind, and what the log is told. The command is run once to hold the
-- conversation, and once more over its replies with the times at which it began and ended.
def perform (around : Surroundings) (words : List String) : IO (Run Script Outcome) := do
  let start ← readSeconds
  let service := (Settings.load around.sources).bind Gateway.connect
  let exchanges ← converse service (Command.run around words)
  let stop ← readSeconds
  let around := { around with clock := .ofList [start, stop] }
  return (Command.run around words).run Script.client (.ofConversation exchanges)

-- Twelve digits that tell the lines of this invocation from others.
def drawTag : IO String := do
  return .ofList (Text.hex 12 (← IO.rand 0 (twoTo 48 - 1)))

def writeLog (log : Log) (events : List Event) : IO Unit := do
  let tag ← drawTag
  for e in events do
    if log.level ≤ e.severity.level then
      IO.eprintln (e.severity.word ++ "  " ++ e.line tag)

def writeFile (place text : String) : IO Unit := do
  let l := Location.ofText place
  IO.FS.createDirAll (Location.text { l with steps := l.steps.dropLast })
  IO.FS.writeFile place text

def settle (around : Surroundings) (o : Outcome) : IO UInt32 := do
  for (place, text) in o.files do
    writeFile place text
  match o.userFile with
  | some text => writeFile around.userPlace text
  | none => pure ()
  IO.print o.output
  for item in o.console do
    for line in item.plain do
      IO.println line
  match o.failure with
  | some f => IO.eprintln (f.kind ++ ": " ++ f.message)
  | none => pure ()
  return o.exitCode.toUInt32

-- The words of the command line, run. Only the set-up reads what is typed in as a whole.
def runWords (words : List String) : IO UInt32 := do
  match (← readMachine).userFile with
  | .error f =>
    IO.eprintln (f.kind ++ ": " ++ f.message)
    return 1
  | .ok place =>
    let around ← readSurroundings place.text
    let input ← match Command.ofWords words with
      | .ok .setUp => (← IO.getStdin).readToEnd
      | _ => pure ""
    let run ← perform { around with input } words
    writeLog run.value.log run.events
    settle around run.value

end RelatedIssues

def main (words : List String) : IO UInt32 :=
  RelatedIssues.runWords words
