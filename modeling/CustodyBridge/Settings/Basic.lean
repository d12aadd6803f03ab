import CustodyBridge.Json.Form
import CustodyBridge.Purpose
import CustodyBridge.Settings.EnvFile
import CustodyBridge.Text.Integer

/-!
# Settings

What a deployment may choose: its programs, its fee mint, its chain, and the first bridge fee.
Every setting has a default.
-/

namespace CustodyBridge

/-- The programs and the mint are base58 texts, which `validate` checks. -/
structure Settings where
  bridgeProgram : String := "DwZPNgo4Qtxw2PcbSVgs16kVzynhBLHMF1iz9Js1efY5"
  messageProgram : String := "5Dwsb6syuTtb6LEBw8CdbBdZS4Pfd8jWjiS3nmYRY6KP"
  nativeMint : String := "So11111111111111111111111111111111111111112"
  localFamily : UInt8 := 2
  localNumber : UInt64 := 101
  defaultBridgeFee : UInt64 := 0
deriving DecidableEq

/-- Why settings cannot be used. -/
inductive SettingsError where
  | programs (cause : AddressError)
  | samePrograms
  | nativeMint (cause : AddressError)
  | variable (name kind : String) (cause : Integer.Error)
  | envFile (path : String) (cause : EnvFile.Error)
deriving DecidableEq

def SettingsError.message : SettingsError → String
  | .programs cause =>
    "program ids must be base58 encoded 32-byte addresses: Invalid address: " ++ cause.message
  | .samePrograms => "bridge and message program ids must differ"
  | .nativeMint cause =>
    "native_mint must be a base58 encoded 32-byte address: Invalid address: " ++ cause.message
  | .variable name kind cause => s!"{name} must be a valid {kind}: {cause.message}"
  | .envFile path cause => s!"Failed to load .env file from {path}: {cause.message}"

namespace Settings

/-! ## What the settings stand for -/

def programs (s : Settings) : Except AddressError Programs := do
  return ⟨← Address.ofBase58 s.bridgeProgram, ← Address.ofBase58 s.messageProgram⟩

def mint (s : Settings) : Except AddressError Address := Address.ofBase58 s.nativeMint

def localChain (s : Settings) : Chain := ⟨s.localFamily, s.localNumber⟩

/-- The programs must be two different addresses, and the mint an address. -/
def validate (s : Settings) : Except SettingsError Unit := do
  let programs ← s.programs.mapError .programs
  if programs.bridge = programs.message then throw .samePrograms
  let _ ← s.mint.mapError .nativeMint

/-! ## From variables -/

/-- A number from a variable, up to a limit, or its default. -/
def number (value? : String → Option String) (name kind : String) (limit default : Nat) :
    Except SettingsError Nat :=
  match value? name with
  | none => .ok default
  | some text => (Integer.parse limit text.toList).mapError (.variable name kind)

/-- Settings from the values of variables, however they are looked up. -/
def ofValues (value? : String → Option String) : Except SettingsError Settings := do
  let defaults : Settings := {}
  let family ← number value? "LOCAL_CHAIN_TYPE" "u8" (UInt8.size - 1) defaults.localFamily.toNat
  let number64 ← number value? "LOCAL_CHAIN_ID" "u64" (UInt64.size - 1) defaults.localNumber.toNat
  let fee ←
    number value? "DEFAULT_BRIDGE_FEE" "u64" (UInt64.size - 1) defaults.defaultBridgeFee.toNat
  let settings : Settings := {
    bridgeProgram := (value? "BRIDGE_PROGRAM_ID").getD defaults.bridgeProgram
    messageProgram := (value? "MESSAGE_PROGRAM_ID").getD defaults.messageProgram
    nativeMint := (value? "NATIVE_MINT").getD defaults.nativeMint
    localFamily := UInt8.ofNat family
    localNumber := UInt64.ofNat number64
    defaultBridgeFee := UInt64.ofNat fee }
  settings.validate
  return settings

/-- Where the env file stands if no other path is given. -/
def defaultPath : String := ".env"

/-- Reads an env file, if one stands at the path, before the variables. -/
def load (placeAt : String → Place) (vars : Variables) (path : String) :
    Except SettingsError Settings := do
  ofValues (← (EnvFile.loadFrom vars (placeAt path)).mapError (.envFile path)).get?

end Settings

/-! ## From JSON -/

instance : JsonForm Settings where
  toJson s := .object [
    ("bridge_program_id", JsonForm.toJson s.bridgeProgram),
    ("message_program_id", JsonForm.toJson s.messageProgram),
    ("native_mint", JsonForm.toJson s.nativeMint),
    ("local_chain_type", JsonForm.toJson s.localFamily),
    ("local_chain_id", JsonForm.toJson s.localNumber),
    ("default_bridge_fee", JsonForm.toJson s.defaultBridgeFee)]
  ofJson? j := do
    let defaults : Settings := {}
    let fields ← j.knownFields? [
      "bridge_program_id", "message_program_id", "native_mint", "local_chain_type",
      "local_chain_id", "default_bridge_fee"]
    return {
      bridgeProgram := ← fields.withDefault "bridge_program_id" defaults.bridgeProgram
      messageProgram := ← fields.withDefault "message_program_id" defaults.messageProgram
      nativeMint := ← fields.withDefault "native_mint" defaults.nativeMint
      localFamily := ← fields.withDefault "local_chain_type" defaults.localFamily
      localNumber := ← fields.withDefault "local_chain_id" defaults.localNumber
      defaultBridgeFee := ← fields.withDefault "default_bridge_fee" defaults.defaultBridgeFee }

end CustodyBridge
