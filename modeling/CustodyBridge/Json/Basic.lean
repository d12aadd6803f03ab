import CustodyBridge.Json.Escape

/-!
# JSON values

Values and their compact text. Fields of an object keep their order.
-/

namespace CustodyBridge

/-- A value, as far as it matters to those who read it. -/
inductive Json where
  /-- A number, `true`, `false` or `null`. What else a word may be is left to who reads it. -/
  | word (w : String)
  /-- A text remembers whether it stands there with escapes. -/
  | text (s : String) (escaped : Bool)
  /-- Whether one more comma between two items may be missing is kept. -/
  | array (items : List Json) (slack : Bool)
  | object (fields : List (String × Json))

namespace Json

def null : Json := word "null"

def ofBool (b : Bool) : Json := word (if b then "true" else "false")

def ofNat (n : Nat) : Json := word (String.ofList (Nat.toDigits 10 n))

def ofText (s : String) : Json := text s (s.toList.any mustEscape)

def ofList (items : List Json) : Json := array items false

mutual

/-- The value is written without blanks. -/
def chars : Json → List Char
  | word w => w.toList
  | text s _ => quote s
  | array items _ => '[' :: itemChars items ++ [']']
  | object fields => '\x7b' :: fieldChars fields ++ ['\x7d']

def itemChars : List Json → List Char
  | [] => []
  | [item] => item.chars
  | item :: rest => item.chars ++ ',' :: itemChars rest

def fieldChars : List (String × Json) → List Char
  | [] => []
  | [(name, value)] => quote name ++ ':' :: value.chars
  | (name, value) :: rest => quote name ++ ':' :: value.chars ++ ',' :: fieldChars rest

end

def render (j : Json) : String := String.ofList j.chars

end Json

end CustodyBridge
