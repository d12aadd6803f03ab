import CustodyBridge.Json.Basic

/-!
# Reading JSON text

A text is read one character at a time. Blanks may stand around values and marks. Fields of equal
names are kept apart.
-/

namespace CustodyBridge.Json

def isBlank (c : Char) : Bool := c = ' ' || c = '\n' || c = '\t' || c = '\r'

/-- The marks that end a word. Anything else may stand in one, behind its first character. -/
def endsWord (c : Char) : Bool := c = ',' || c = ']' || c = '\x7d'

/-- A container that is still open: what it holds so far, in reverse. -/
inductive Frame where
  | items (done : List Json) (slack : Bool)
  /-- The next value is a name. -/
  | name (done : List (String × Json))
  | field (done : List (String × Json)) (name : String)

/-- What may come next, inside the open containers, innermost first. Characters of a text or a word
so far stand in reverse. -/
inductive Reader where
  | value (frames : List Frame)
  /-- A backslash takes the next character with it. -/
  | text (frames : List Frame) (raw : List Char) (slash : Bool)
  | word (frames : List Frame) (raw : List Char)
  | firstItem (frames : List Frame)
  | afterItem (frames : List Frame) (done : List Json) (slack : Bool)
  | firstName (frames : List Frame)
  | afterName (frames : List Frame) (done : List (String × Json)) (name : String)
  | afterField (frames : List Frame) (done : List (String × Json))
  | complete (j : Json)

namespace Reader

/-- The greatest number of containers inside one another. -/
def maxDepth : Nat := 127

/-- Puts a finished value where it belongs. -/
def put (j : Json) : List Frame → Option Reader
  | [] => some (.complete j)
  | .items done slack :: frames => some (.afterItem frames (j :: done) slack)
  | .name done :: frames =>
    match j with
    | .text name _ => some (.afterName frames done name)
    | _ => none
  | .field done name :: frames => some (.afterField frames ((name, j) :: done))

/-- A word has no blanks at its end. -/
def putWord (raw : List Char) (frames : List Frame) : Option Reader :=
  put (.word (String.ofList (raw.dropWhile isBlank).reverse)) frames

def putText (raw : List Char) (frames : List Frame) : Option Reader := do
  let chars ← unquote raw.reverse
  put (.text (String.ofList chars) (hasEscape raw)) frames

/-- Takes the first character of a value. -/
def start (frames : List Frame) (c : Char) : Option Reader :=
  if c = '"' then some (.text frames [] false)
  else if c = '[' then if frames.length < maxDepth then some (.firstItem frames) else none
  else if c = '\x7b' then if frames.length < maxDepth then some (.firstName frames) else none
  else if endsWord c then none
  else some (.word frames [c])

/-- Takes a character outside texts and words. An array that opens with a comma may leave out one
comma later on. -/
def take : Reader → Char → Option Reader
  | .value frames, c => start frames c
  | .firstItem frames, c =>
    if c = ']' then put (.array [] false) frames
    else if c = ',' then some (.value (.items [] true :: frames))
    else start (.items [] false :: frames) c
  | .afterItem frames done slack, c =>
    if c = ']' then put (.array done.reverse slack) frames
    else if c = ',' then some (.value (.items done slack :: frames))
    else if slack then start (.items done false :: frames) c
    else none
  | .firstName frames, c =>
    if c = '\x7d' then put (.object []) frames else start (.name [] :: frames) c
  | .afterName frames done name, c =>
    if c = ':' then some (.value (.field done name :: frames)) else none
  | .afterField frames done, c =>
    if c = '\x7d' then put (.object done.reverse) frames
    else if c = ',' then some (.value (.name done :: frames))
    else none
  | _, _ => none

/-- A blank matters in a text, and ends a word. Elsewhere it is skipped. -/
def step : Reader → Char → Option Reader
  | .text frames raw slash, c =>
    if slash then some (.text frames (c :: raw) false)
    else if c = '"' then putText raw frames
    else some (.text frames (c :: raw) (c = '\\'))
  | .word frames raw, c =>
    if endsWord c then (putWord raw frames).bind fun next => next.take c
    else some (.word frames (c :: raw))
  | r, c => if isBlank c then some r else r.take c

def run (r : Reader) : List Char → Option Reader
  | [] => some r
  | c :: rest => (r.step c).bind fun next => next.run rest

/-- The value at the end of the text. A word may stand there alone. -/
def finish : Reader → Option Json
  | .complete j => some j
  | .word frames raw => (putWord raw frames).bind fun
    | .complete j => some j
    | _ => none
  | _ => none

end Reader

/-- The value that a text denotes. -/
def parse (s : String) : Option Json := ((Reader.value []).run s.toList).bind Reader.finish

end CustodyBridge.Json
