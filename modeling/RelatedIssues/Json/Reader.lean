import RelatedIssues.Json.Token

namespace RelatedIssues.Json

-- A fault of a JSON text: its cause, and its place as lines and columns from one and as a count of the
-- characters before it.
structure Fault where
  cause  : Cause
  line   : Nat
  column : Nat
  offset : Nat
  deriving DecidableEq, Repr

def Cause.text : Cause → String
  | .value => "Expecting value"
  | .name => "Expecting property name enclosed in double quotes"
  | .colon => "Expecting ':' delimiter"
  | .comma => "Expecting ',' delimiter"
  | .surplus => "Extra data"
  | .openString => "Unterminated string starting at"
  | .control => "Invalid control character at"
  | .escape => "Invalid \\escape"
  | .unicode => "Invalid \\uXXXX escape"
  | .digits count =>
    "Exceeds the limit (" ++ toString maxDigits ++
      " digits) for integer string conversion: value has " ++ toString count ++
      " digits; use sys.set_int_max_str_digits() to increase the limit"
  | .depth .array => "maximum recursion depth exceeded while decoding a JSON array from a unicode string"
  | .depth .object =>
    "maximum recursion depth exceeded while decoding a JSON object from a unicode string"

-- What is too large has no place in the text.
def Cause.isPlaced : Cause → Bool
  | .digits _ | .depth _ => false
  | _ => true

def Fault.message (f : Fault) : String :=
  if !f.cause.isPlaced then f.cause.text
  else f.cause.text ++ ": line " ++ toString f.line ++ " column " ++ toString f.column ++
    " (char " ++ toString f.offset ++ ")"

def Fault.locate (text : List Char) (cause : Cause) (offset : Nat) : Fault where
  cause  := cause
  line   := 1 + (text.take offset).count '\n'
  column := 1 + ((text.take offset).reverse.takeWhile (· ≠ '\n')).length
  offset := offset

-- An array or object that is still open, its newest item first.
inductive Frame where
  | array (items : List Json)
  | object (fields : Table Json) (name : String)

-- What the machine takes next.
inductive State where
  | value (frames : List Frame)
  | firstItem (frames : List Frame)
  | firstName (frames : List Frame)
  | name (fields : Table Json) (frames : List Frame)
  | colon (fields : Table Json) (name : String) (frames : List Frame)
  | after (j : Json) (frames : List Frame)

def State.misfit (pos : Nat) : State → Cause × Nat
  | .value _ | .firstItem _ => (.value, pos)
  | .firstName _ | .name .. => (.name, pos)
  | .colon .. => (.colon, pos)
  | .after _ [] => (.surplus, pos)
  | .after _ (_ :: _) => (.comma, pos)

def maxDepth : Nat := 980

def openNest (nest : Nest) (frames : List Frame) (pos : Nat) (state : State) :
    Except (Cause × Nat) State :=
  if maxDepth ≤ frames.length then .error (.depth nest, pos) else .ok state

def takeValue (frames : List Frame) (pos : Nat) : Token → Except (Cause × Nat) State
  | .openArray => openNest .array frames pos (.firstItem frames)
  | .openObject => openNest .object frames pos (.firstName frames)
  | .str s => .ok (.after (.str s) frames)
  | .value j => .ok (.after j frames)
  | .flaw cause at_ => .error (cause, at_)
  | _ => .error (.value, pos)

def Cause.inString : Cause → Bool
  | .openString | .control | .escape | .unicode => true
  | _ => false

-- Takes a token where a name may stand. Only a string that is broken inside has a flaw of its own
-- there.
def takeName (fields : Table Json) (frames : List Frame) (pos : Nat) :
    Token → Except (Cause × Nat) State
  | .str s => .ok (.colon fields s frames)
  | .flaw cause at_ => .error (if cause.inString then (cause, at_) else (.name, pos))
  | _ => .error (.name, pos)

def step (pos : Nat) (token : Token) : State → Except (Cause × Nat) State
  | .value frames => takeValue frames pos token
  | .firstItem frames =>
    match token with
    | .closeArray => .ok (.after (.arr []) frames)
    | token => takeValue (.array [] :: frames) pos token
  | .firstName frames =>
    match token with
    | .closeObject => .ok (.after (.obj []) frames)
    | token => takeName [] frames pos token
  | .name fields frames => takeName fields frames pos token
  | .colon fields name frames =>
    match token with
    | .colon => .ok (.value (.object fields name :: frames))
    | _ => .error (.colon, pos)
  | .after j (.array items :: frames) =>
    match token with
    | .comma => .ok (.value (.array (j :: items) :: frames))
    | .closeArray => .ok (.after (.arr (j :: items).reverse) frames)
    | _ => .error (.comma, pos)
  | .after j (.object fields name :: frames) =>
    match token with
    | .comma => .ok (.name (fields.insert name j) frames)
    | .closeObject => .ok (.after (.obj (fields.insert name j)) frames)
    | _ => .error (.comma, pos)
  | .after _ [] => .error (.surplus, pos)

-- The first token that does not fit is the fault.
def run (stop : Nat) : List (Nat × Token) → State → Except (Cause × Nat) Json
  | [], .after j [] => .ok j
  | [], state => .error (state.misfit stop)
  | (pos, token) :: rest, state => do run stop rest (← step pos token state)

def readList (text : List Char) : Except Fault Json :=
  match run text.length (tokens text) (.value []) with
  | .ok j => .ok j
  | .error (cause, offset) => .error (.locate text cause offset)

-- Reads a text that holds one value. Of two fields with one name the last counts.
def read (text : String) : Except Fault Json :=
  readList text.toList

end RelatedIssues.Json
