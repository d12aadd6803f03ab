import CustodyBridge.Chain
import CustodyBridge.Derivation
import CustodyBridge.Json.Reader
import CustodyBridge.Text.Integer

/-!
# JSON forms of values

How the bridge's values are written as JSON and read back. Reading is strict: an object has each
of its fields once and no other.
-/

namespace CustodyBridge

/-- A type whose values are exchanged or stored as JSON. -/
class JsonForm (α : Type) where
  toJson : α → Json
  ofJson? : Json → Option α

namespace JsonForm

variable {α : Type} [JsonForm α]

def write (a : α) : String := (toJson a).render

/-- The value that a text stands for, if it is in order. -/
def read? (s : String) : Option α := (Json.parse s).bind ofJson?

end JsonForm

open JsonForm

/-! ## Words -/

namespace Json

/-- A number at the start of a word, and what stands behind it. A zero has no digits behind it. -/
def leadingNatural? : List Char → Option (Nat × List Char)
  | [] => none
  | c :: rest =>
    if c = '0' then some (0, rest)
    else if c.isDigit then
      some (Nat.ofDigitChars 10 (c :: rest.takeWhile Char.isDigit) 0, rest.dropWhile Char.isDigit)
    else none

/-- Only a word that is a natural number all through. -/
def natural? : Json → Option Nat
  | .word w =>
    match leadingNatural? w.toList with
    | some (n, []) => some n
    | _ => none
  | _ => none

def naturalBelow (bound : Nat) (j : Json) : Option Nat := j.natural?.filter (· < bound)

/-- Two numbers in one word, where the comma between them is missing. -/
def naturalPair? : Json → Option (Nat × Nat)
  | .word w => do
    let (first, rest) ← leadingNatural? w.toList
    let (second, rest) ← leadingNatural? (rest.dropWhile isBlank)
    if rest.isEmpty then some (first, second) else none
  | _ => none

end Json

instance : JsonForm UInt8 where
  toJson n := .ofNat n.toNat
  ofJson? j := (j.naturalBelow UInt8.size).map UInt8.ofNat

instance : JsonForm UInt32 where
  toJson n := .ofNat n.toNat
  ofJson? j := (j.naturalBelow UInt32.size).map UInt32.ofNat

instance : JsonForm UInt64 where
  toJson n := .ofNat n.toNat
  ofJson? j := (j.naturalBelow UInt64.size).map UInt64.ofNat

instance : JsonForm Bool where
  toJson := .ofBool
  ofJson?
    | .word "true" => some true
    | .word "false" => some false
    | _ => none

instance : JsonForm String where
  toJson s := .ofText s
  ofJson?
    | .text s _ => some s
    | _ => none

namespace Word128

/-- A 128-bit word is written as its digits between quotes. -/
def toJson (n : Word128) : Json := .text (String.ofList (Nat.toDigits 10 n.toNat)) false

/-- Reads digits, possibly behind zeros or one plus sign. -/
def ofDigits? (s : String) : Option Word128 :=
  match Integer.parse (Word128.size - 1) s.toList with
  | .ok n => some (BitVec.ofNat 128 n)
  | .error _ => none

/-- Reads quoted digits leniently. -/
def ofJson? : Json → Option Word128
  | .text s _ => ofDigits? s
  | _ => none

/-- Reads quoted digits only as they are written. -/
def ofCanonicalJson? : Json → Option Word128
  | .text s false => (ofDigits? s).filter fun n => s = String.ofList (Nat.toDigits 10 n.toNat)
  | _ => none

end Word128

/-! ## Lists and options -/

/-- The bytes that the items of an array denote. One word may hold two of them if a comma may be
missing. -/
def bytesOfItems? (slack : Bool) : List Json → Option (List UInt8)
  | [] => some []
  | item :: rest =>
    match item.naturalPair? with
    | some (first, second) =>
      if slack && first < UInt8.size && second < UInt8.size then
        (bytesOfItems? false rest).map ([UInt8.ofNat first, UInt8.ofNat second] ++ ·)
      else none
    | none => do
      let b : UInt8 ← ofJson? item
      return b :: (← bytesOfItems? slack rest)

instance : JsonForm (List UInt8) where
  toJson bytes := .ofList (bytes.map toJson)
  ofJson?
    | .array items slack => bytesOfItems? slack items
    | _ => none

instance {α : Type} [JsonForm α] : JsonForm (Option α) where
  toJson
    | some a => toJson a
    | none => .null
  ofJson?
    | .word "null" => some none
    | j => (ofJson? j).map some

/-! ## Objects -/

abbrev Fields := List (String × Json)

/-- The fields of an object with no other names than these, and none twice. -/
def Json.fields? (names : List String) : Json → Option Fields
  | .object fields =>
    if (fields.all fun f => names.contains f.1) && decide (fields.map (·.1)).Nodup then some fields
    else none
  | _ => none

/-- The fields of an object with these names, none twice. Other fields are ignored. -/
def Json.knownFields? (names : List String) : Json → Option Fields
  | .object fields =>
    let known := fields.filter fun f => names.contains f.1
    if (known.map (·.1)).Nodup then some known else none
  | _ => none

namespace Fields

/-- A field that must be there. -/
def required {α : Type} [JsonForm α] (fields : Fields) (name : String) : Option α :=
  (fields.lookup name).bind ofJson?

/-- A field that may be missing, which means the same as null. -/
def optional {α : Type} [JsonForm α] (fields : Fields) (name : String) : Option (Option α) :=
  match fields.lookup name with
  | none => some none
  | some j => ofJson? j

/-- A field that may be missing, which means a given value. -/
def withDefault {α : Type} [JsonForm α] (fields : Fields) (name : String) (value : α) : Option α :=
  match fields.lookup name with
  | none => some value
  | some j => ofJson? j

end Fields

/-- An object with one field, which names the variant of what it holds. -/
def Json.variant? : Json → Option (String × Json)
  | .object [field] => some field
  | _ => none

/-- One field, which has the name of the variant. -/
def Json.ofVariant (name : String) (fields : Fields) : Json := .object [(name, .object fields)]

/-! ## Addresses, chains and accounts -/

instance : JsonForm Bytes32 where
  toJson a := toJson a.bytes
  ofJson? j := (ofJson? j).bind Bytes32.ofBytes?

instance : JsonForm Chain where
  toJson c := .object [("chain_type", toJson c.family), ("chain_id", toJson c.number)]
  ofJson? j := do
    let fields ← j.fields? ["chain_type", "chain_id"]
    return ⟨← fields.required "chain_type", ← fields.required "chain_id"⟩

instance : JsonForm Account where
  toJson a := .object [("address", toJson a.address), ("bump", toJson a.bump)]
  ofJson? j := do
    let fields ← j.fields? ["address", "bump"]
    return ⟨← fields.required "address", ← fields.required "bump"⟩

end CustodyBridge
