import RelatedIssues.Failure
import RelatedIssues.Number.Double

namespace RelatedIssues

structure Clock where
  reading : Nat → Double

namespace Clock

def ofList (readings : List Double) : Clock where
  reading i := readings.getD i (readings.getLastD .zero)

-- Seconds between two readings, as whole milliseconds.
def milliseconds (start stop : Double) : Except Failure Int :=
  let passed := (stop.sub start).scale 1000
  match passed, passed.truncate? with
  | _, some n => .ok n
  | .nan, none => .error (.value "cannot convert float NaN to integer")
  | _, none => .error (.overflow "cannot convert float infinity to integer")

-- The milliseconds from the first reading to reading `i`. They are part of a result, and less than none
-- are refused there.
def elapsed (clock : Clock) (i : Nat) : Except Failure Nat := do
  let n ← milliseconds (clock.reading 0) (clock.reading i)
  if n < 0 then
    .error (.invalid "ResolutionResult" [{ path := ["elapsed_ms"], complaint := .below 0 }])
  else
    .ok n.toNat

end Clock
end RelatedIssues
