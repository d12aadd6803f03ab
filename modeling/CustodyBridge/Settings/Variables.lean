/-!
# Variables

The variables of a process, each an entry `NAME=value`.
-/

namespace CustodyBridge

/-- The variables that are set, with their names. -/
abbrev Variables := List (String × String)

namespace Variables

def entry (name value : String) : List Char := name.toList ++ '=' :: value.toList

/-- What stands behind a name and an equals sign in an entry that begins with them. -/
def valueIn? : (name entry : List Char) → Option (List Char)
  | [], '=' :: value => some value
  | c :: name, d :: entry => if c = d then valueIn? name entry else none
  | _, _ => none

/-- The first entry counts that has the name. A name may reach beyond the equals sign of an entry:
where `A` is `B=7`, the value of `A=B` is `7`. -/
def get? (vars : Variables) (name : String) : Option String :=
  if name.isEmpty then none
  else vars.findSome? fun v => (valueIn? name.toList (entry v.1 v.2)).map String.ofList

/-- Sets a variable unless it is set. -/
def setNew (vars : Variables) (name value : String) : Variables :=
  if (vars.get? name).isSome then vars else vars ++ [(name, value)]

end Variables

end CustodyBridge
