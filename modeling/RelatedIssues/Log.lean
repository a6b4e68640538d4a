import RelatedIssues.Failure

namespace RelatedIssues

-- The log: the least level of a line that is taken, and an outlet for each layout. An outlet may have
-- no layout of its own.
structure Log where
  level   : Nat := 30
  outlets : List (Option String) := []
  deriving DecidableEq, Repr, Inhabited

namespace Log

-- The names of levels. Some levels have two.
def levels : List (String × Nat) :=
  [("CRITICAL", 50), ("FATAL", 50), ("ERROR", 40), ("WARNING", 30), ("WARN", 30), ("INFO", 20),
    ("DEBUG", 10), ("NOTSET", 0)]

-- The level that is meant by a name which is none.
def defaultLevel : Nat := 20

-- The capital of a letter, as far as a capital of ASCII: the dotless i and the long s have one.
def capital (c : Char) : Char :=
  if c.toNat = 0x131 then 'I' else if c.toNat = 0x17F then 'S' else c.toUpper

-- The layout of a line: when, where, how grave and what.
def layout : String :=
  "%(asctime)s  %(name)-32s  %(levelname)-7s  %(message)s"

-- The plainest layout, in each of three styles.
def plainLayouts : List (String × String × String) :=
  [("%", "PercentStyle", "%(levelname)s:%(name)s:%(message)s"),
    ("\x7b", "StrFormatStyle", "\x7blevelname\x7d:\x7bname\x7d:\x7bmessage\x7d"),
    ("$", "StringTemplateStyle", "$\x7blevelname\x7d:$\x7bname\x7d:$\x7bmessage\x7d")]

def stylesText : String :=
  "\x7b" ++
    ", ".intercalate (plainLayouts.map fun (mark, style, layout) =>
      "'" ++ mark ++ "': (<class 'logging." ++ style ++ "'>, '" ++ layout ++ "')") ++ "\x7d"

-- The words that mean something else than a level, and why each is refused where a level belongs.
def otherWords : List (String × Failure) :=
  [("BASIC_FORMAT", .value "Unknown level: '%(levelname)s:%(name)s:%(message)s'"),
    ("_STYLES", .misuse (.notLevel stylesText))]

def levelOf (word : String) : Except Failure Nat :=
  let name := word.map capital
  match otherWords.lookup name with
  | some f => .error f
  | none => .ok ((levels.lookup name).getD defaultLevel)

-- The name of a log; the one without a name is the root of all.
def nameOf (name : String) : String :=
  if name = "" then "root" else name

def opened (log : Log) : Log :=
  if log.outlets = [] then { log with outlets := [some layout] } else log

def configure (log : Log) (word : String) : Except Failure Log :=
  (levelOf word).map fun level => { log.opened with level }

-- Opening a log twice is opening it once.
@[simp]
theorem opened_opened {log : Log} : log.opened.opened = log.opened := by
  unfold opened
  split <;> simp_all

end Log
end RelatedIssues
