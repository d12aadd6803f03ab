import CustodyBridge.Settings.Place
import CustodyBridge.Settings.Variables
import CustodyBridge.Text.CharClass

/-!
# Env files

A file of lines `NAME=value`. A value may be quoted, over several lines if need be, and may refer
to variables. Variables that are set already keep their values.
-/

namespace CustodyBridge

namespace EnvFile

/-- Why a file does not give its variables. -/
inductive Error where
  /-- A text that cannot be read, and where its reading ended. -/
  | unreadable (text : String) (position : Nat)
  /-- There is no file at the path, though there is something else. -/
  | notFound
  /-- What is at the path has too long a path from the root. -/
  | tooLong
deriving DecidableEq

/-- Why there is no file to read is said twice: the cause of the failure is the failure. -/
def Error.message : Error → String
  | .unreadable text position => s!"Error parsing line: '{text}', error at line index: {position}"
  | .notFound => "path not found: path not found"
  | .tooLong => "File name too long (os error 36): File name too long (os error 36)"

def byteLength (chars : List Char) : Nat := chars.foldl (fun n c => n + c.utf8Size) 0

/-! ## Lines -/

/-- The lines of a text, each with its line end. -/
def physicalLines : List Char → List (List Char)
  | [] => []
  | c :: rest =>
    if c = '\n' then [c] :: physicalLines rest
    else
      match physicalLines rest with
      | [] => [[c]]
      | line :: lines => (c :: line) :: lines

/-- Whether a line is complete so far, and why not. -/
inductive Quoting where
  | complete
  | blank
  | escape
  | strong
  | strongEscape
  | weak
  | weakEscape
deriving DecidableEq

def Quoting.atStart (c : Char) : Quoting :=
  if c = '\\' then .escape else if c = '"' then .weak else if c = '\'' then .strong else .complete

/-- What a character makes of a line, or nothing where it starts a comment. -/
def Quoting.next : Quoting → Char → Option Quoting
  | .complete, c =>
    if CharClass.isBlank c && c != '\n' && c != '\r' then some .blank else some (atStart c)
  | .blank, c => if c = '#' then none else some (atStart c)
  | .escape, _ => some .complete
  | .strong, c =>
    some (if c = '\\' then .strongEscape else if c = '\'' then .complete else .strong)
  | .strongEscape, _ => some .strong
  | .weak, c => some (if c = '\\' then .weakEscape else if c = '"' then .complete else .weak)
  | .weakEscape, _ => some .weak

/-- The characters of a line before a comment, and how the line ends if there is none. -/
def Quoting.scan (q : Quoting) : List Char → List Char × Option Quoting
  | [] => ([], some q)
  | c :: rest =>
    match q.next c with
    | none => ([], none)
    | some next =>
      let (kept, last) := next.scan rest
      (c :: kept, last)

/-- A line feed, with or without a carriage return. -/
def dropLineEnd (line : List Char) : List Char :=
  match line.reverse with
  | '\n' :: '\r' :: rest => rest.reverse
  | '\n' :: rest => rest.reverse
  | _ => line

def isComment (line : List Char) : Bool := (line.dropWhile CharClass.isBlank).head? = some '#'

/-- Joins lines until each is complete. The file must not end before the last one is. -/
def logicalLines (before : List Char) (q : Quoting) :
    List (List Char) → List (Except Error (List Char))
  | [] =>
    if q = .complete then [] else [.error (.unreadable (String.ofList before) (byteLength before))]
  | line :: rest =>
    if isComment (before ++ line) then .ok [] :: logicalLines [] .complete rest
    else
      match q.scan line with
      | (kept, none) => .ok (before ++ kept) :: logicalLines [] .complete rest
      | (_, some .complete) =>
        .ok (dropLineEnd (before ++ line)) :: logicalLines [] .complete rest
      | (_, some open_) => logicalLines (before ++ line) open_ rest

/-! ## Values -/

/-- Where a value refers to a variable: behind a dollar sign, or in braces behind one. -/
inductive Reference where
  | none
  | plain
  | braced
deriving DecidableEq

/-- What has been read of a value. The name and the output stand in reverse. -/
structure ValueReader where
  strong : Bool
  weak : Bool
  escaped : Bool
  ended : Bool
  reference : Reference
  name : List Char
  out : List Char

namespace ValueReader

def initial : ValueReader := ⟨false, false, false, false, .none, [], []⟩

def push (r : ValueReader) (c : Char) : ValueReader := { r with out := c :: r.out }

/-- Puts the value of the variable that was named, if it is set. -/
def resolve (vars : Variables) (r : ValueReader) : ValueReader :=
  let value := (vars.get? (String.ofList r.name.reverse)).getD ""
  { r with out := value.toList.reverse ++ r.out, name := [], reference := .none }

def escapedChar? : Char → Option Char
  | '\\' => some '\\'
  | '\'' => some '\''
  | '"' => some '"'
  | '$' => some '$'
  | ' ' => some ' '
  | 'n' => some '\n'
  | _ => none

/-- Takes a character of a reference. One that ends a plain name stands for itself. -/
def stepReference (vars : Variables) (r : ValueReader) (c : Char) : ValueReader :=
  if CharClass.isAlphanumeric c then { r with name := c :: r.name }
  else if r.reference = .plain then
    if c = '\x7b' && r.name.isEmpty then { r with reference := .braced }
    else if c = '$' then { r.resolve vars with reference := .plain }
    else (r.resolve vars).push c
  else if c = '\x7d' then r.resolve vars
  else { r with name := c :: r.name }

/-- Takes a character, or refuses it. -/
def step (vars : Variables) (r : ValueReader) (c : Char) : Option ValueReader :=
  if r.ended then if c = ' ' || c = '\t' then some r else none
  else if r.escaped then (escapedChar? c).map fun e => { r.push e with escaped := false }
  else if r.strong then some (if c = '\'' then { r with strong := false } else r.push c)
  else if r.reference ≠ .none then some (r.stepReference vars c)
  else if c = '$' then some { r with reference := .plain }
  else if r.weak then
    some (if c = '"' then { r with weak := false }
      else if c = '\\' then { r with escaped := true }
      else r.push c)
  else if c = '\'' then some { r with strong := true }
  else if c = '"' then some { r with weak := true }
  else if c = '\\' then some { r with escaped := true }
  else if c = ' ' || c = '\t' then some { r with ended := true }
  else some (r.push c)

/-- Reads on, where `position` characters have been read. A comment ends a value. -/
def run (vars : Variables) (r : ValueReader) (position : Nat) :
    List Char → Except Nat ValueReader
  | [] => .ok r
  | c :: rest =>
    if r.ended && c = '#' then .ok r
    else
      match r.step vars c with
      | none => .error position
      | some next => next.run vars (position + 1) rest

end ValueReader

/-- No quotation, and no reference in braces, may stay open. -/
def readValue (vars : Variables) (value : List Char) : Except Error String :=
  match ValueReader.initial.run vars 0 value with
  | .error position => .error (.unreadable (String.ofList value) position)
  | .ok r =>
    if r.strong || r.weak || r.reference = .braced then
      .error (.unreadable (String.ofList value) (byteLength value - 1))
    else .ok (String.ofList (r.resolve vars).out.reverse)

/-! ## Assignments -/

/-- The rest of a line, and how many bytes of it have been read. -/
structure Cursor where
  rest : List Char
  position : Nat

namespace Cursor

def advance (c : Cursor) (taken : List Char) : Cursor :=
  ⟨c.rest.drop taken.length, c.position + byteLength taken⟩

def skipBlanks (c : Cursor) : Cursor := c.advance (c.rest.takeWhile CharClass.isBlank)

def isNameStart (c : Char) : Bool := c.isAlpha || c = '_'

def isNameChar (c : Char) : Bool := c.isAlphanum || c = '_' || c = '.'

/-- A name and what follows it and its blanks. -/
def name? (c : Cursor) : Option (List Char × Cursor) :=
  if c.rest.head?.any isNameStart then
    let name := c.rest.takeWhile isNameChar
    some (name, (c.advance name).skipBlanks)
  else none

def equals? (c : Cursor) : Option Cursor :=
  if c.rest.head? = some '=' then some (c.advance ['=']) else none

/-- A name and what follows its equals sign, or where reading ended. -/
def assignment (c : Cursor) : Except Nat (List Char × Cursor) :=
  match c.name? with
  | none => .error c.position
  | some (name, c) =>
    match c.equals? with
    | none => .error c.position
    | some c => .ok (name, c)

/-- An assignment that may have the word `export` in front. -/
def exported (c : Cursor) : Except Nat (List Char × Cursor) :=
  match c.name? with
  | some (name, after) =>
    if name = "export".toList && after.equals?.isNone then after.assignment else c.assignment
  | none => c.assignment

end Cursor

def trimEnd (line : List Char) : List Char := (line.reverse.dropWhile CharClass.isBlank).reverse

def startsComment (chars : List Char) : Bool := chars.isEmpty || chars.head? = some '#'

/-- The variable that a line sets, if any. -/
def readLine (vars : Variables) (line : List Char) : Except Error (Option (String × String)) :=
  let c := Cursor.skipBlanks ⟨trimEnd line, 0⟩
  if startsComment c.rest then .ok none
  else
    match c.exported with
    | .error position => .error (.unreadable (String.ofList line) position)
    | .ok (name, c) =>
      let value := c.skipBlanks.rest
      if startsComment value then .ok (some (String.ofList name, ""))
      else (readValue vars value).map fun value => some (String.ofList name, value)

/-! ## Files -/

def dropMark : List Char → List Char
  | '\ufeff' :: rest => rest
  | chars => chars

/-- The variables with those of lines set as well, line by line. -/
def setAll (vars : Variables) : List (Except Error (List Char)) → Except Error Variables
  | [] => .ok vars
  | line :: rest => do
    match ← readLine vars (← line) with
    | some (name, value) => setAll (vars.setNew name value) rest
    | none => setAll vars rest

def load (vars : Variables) (content : String) : Except Error Variables :=
  setAll vars (logicalLines [] .complete (physicalLines (dropMark content.toList)))

/-- Where nothing stands, there is nothing to set. -/
def loadFrom (vars : Variables) : Place → Except Error Variables
  | .nothing => .ok vars
  | .file content => load vars content
  | .noFile => .error .notFound
  | .outOfReach => .error .tooLong

end EnvFile

end CustodyBridge
