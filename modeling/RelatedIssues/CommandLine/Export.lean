import RelatedIssues.Settings.Location

namespace RelatedIssues.Location

def maxName : Nat := 255

def maxText : Nat := 4095

def isLongName (step : String) : Bool :=
  maxName < step.utf8ByteSize

def isLong (l : Location) : Bool :=
  maxText < l.text.utf8ByteSize

def parent (l : Location) : Location :=
  { l with steps := l.steps.dropLast }

-- Whether only steps up lead to a place, so that it is there already.
def isAbove (l : Location) : Bool :=
  l.steps.all (· = "..")

-- The part of a directory's place that is refused when it is made. Steps in front of a name that is too
-- long are made first, if they are not there.
def refusedPart? (l : Location) : Option Location :=
  let front := { l with steps := l.steps.takeWhile (!isLongName ·) }
  if l.isLong then some l
  else if front = l then none
  else if front.isAbove then some l
  else some { l with steps := l.steps.take (front.steps.length + 1) }

-- Why a place holds a file on no disk: it leads to a directory, or has a name that is too long.
def fileFault? (l : Location) : Option Failure :=
  match refusedPart? l.parent with
  | some part => some (.file .nameTooLong part.text)
  | none =>
    if l.isLong ∨ l.steps.getLast?.any isLongName then some (.file .nameTooLong l.text)
    else if l.steps = [] ∨ l.steps.getLast? = some ".." then some (.file .isDirectory l.text)
    else none

end RelatedIssues.Location

namespace RelatedIssues

-- What a disk refuses: texts that cannot be written to a file at a place. A disk of which no more is known refuses the
-- places that can hold no file on any disk.
structure Disk where
  refusal? : Location → String → Option Failure := fun place _ => place.fileFault?

end RelatedIssues
