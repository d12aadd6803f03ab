/-!
# Places of env files

What stands at the path of an env file. Which directories and devices there are, and what files
hold, is a matter of the host; how a path leads through them is not.
-/

namespace CustodyBridge

/-- What a path leads to. -/
inductive Place where
  | nothing
  | file (content : String)
  /-- A directory or a device. -/
  | noFile
  /-- Something whose path is short enough from the working directory, but not from the root. -/
  | outOfReach
deriving DecidableEq

/-- The names that lead from the root to a place, the last one first. -/
abbrev Location := List (List Char)

/-! ## Paths -/

namespace Path

/-- The parts of a path between its slashes. -/
def parts : List Char → List (List Char)
  | [] => [[]]
  | c :: rest =>
    if c = '/' then [] :: parts rest
    else
      match parts rest with
      | [] => [[c]]
      | part :: more => (c :: part) :: more

/-- A path that starts at the root. All others start at the working directory. -/
def isAbsolute (path : List Char) : Bool := path.head? = some '/'

/-- A longer path leads nowhere. -/
def maxLength : Nat := 4095

end Path

/-- The place of a path below the root. -/
def Location.ofPath (path : String) : Location := (Path.parts path.toList).reverse

/-- The length in bytes of the path from the root to a place and the slash behind it. -/
def Location.length (l : Location) : Nat :=
  l.foldl (fun n part => n + (String.ofList part).utf8ByteSize + 1) 1

/-! ## Hosts -/

/-- What a program finds where it runs. -/
structure Host where
  workingDirectory : Location
  /-- The directories but the root and the working directory. -/
  directories : List Location
  devices : List Location
  /-- What the file holds that is written at a path, if there is one. -/
  content? : String → Option String

namespace Host

/-- Whether a place is a directory, which has others below it. -/
def isDirectory (h : Host) (l : Location) : Bool :=
  l = [] || l = h.workingDirectory || h.directories.contains l

/-- A directory or a device that is there. -/
def known? (h : Host) (l : Location) : Option Location :=
  if h.isDirectory l || h.devices.contains l then some l else none

/-- Follows a part of a path, which only a directory lets pass. The root is above itself. -/
def follow (h : Host) (l : Location) (part : List Char) : Option Location :=
  if !h.isDirectory l then none
  else if part = [] || part = ['.'] then some l
  else if part = ['.', '.'] then some l.tail
  else h.known? (part :: l)

/-- Where a path leads, if all of it is known to be there. -/
def resolve (h : Host) (path : List Char) : Option Location :=
  if path.isEmpty then none
  else (Path.parts path).foldlM h.follow (if Path.isAbsolute path then [] else h.workingDirectory)

/-- The length in bytes of a path from the root on. -/
def lengthFromRoot (h : Host) (path : String) : Nat :=
  if Path.isAbsolute path.toList then path.utf8ByteSize
  else h.workingDirectory.length + path.utf8ByteSize

/-- Whether a path that is not too long leads to a file, a directory or a device. -/
def hasPlace (h : Host) (path : String) : Bool :=
  path.utf8ByteSize ≤ Path.maxLength &&
    ((h.content? path).isSome || (h.resolve path.toList).isSome)

/-- What stands at a path. -/
def place (h : Host) (path : String) : Place :=
  if !h.hasPlace path then .nothing
  else if Path.maxLength < h.lengthFromRoot path then .outOfReach
  else
    match h.content? path with
    | some content => .file content
    | none => .noFile

end Host

end CustodyBridge
