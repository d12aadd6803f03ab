import CustodyBridge.Record.Table
import CustodyBridge.Settings.Basic

/-!
# Errors

Why a call fails, and how it is told.
-/

namespace CustodyBridge

/-- Who commands of some kinds are reserved for. -/
inductive Role where
  | admin
  | superAdmin
deriving DecidableEq

def Role.text : Role → String
  | .admin => "admin"
  | .superAdmin => "super admin"

/-- The sum of amounts of each mint, in the order of mints. -/
abbrev Totals := SortedMap Address UInt64

def Totals.text (totals : Totals) : String :=
  if totals.isEmpty then "nothing"
  else ", ".intercalate (totals.entries.map fun (mint, amount) => s!"{mint.toBase58}:{amount}")

/-- Why the funds attached to a call are refused. -/
inductive FundsError where
  | overflow
  | mismatch (attached required : Totals)
deriving DecidableEq

def FundsError.message : FundsError → String
  | .overflow => "attached amount overflows"
  | .mismatch attached required =>
    s!"attached {Totals.text attached} does not match required {Totals.text required}"

/-- Why a request fails. -/
inductive BridgeError where
  | store (cause : StoreError)
  | unauthorized (role : Role)
  | alreadyInitialized
  | notInitialized
  | invalidSettings (cause : SettingsError)
  | invalidAddress (cause : AddressError)
  | derivation (cause : DerivationError)
  | bumpMismatch (given derived : UInt8)
  | unknownChainRelation (chain : Chain)
  | chainInactive (chain : Chain)
  | unknownTokenRelation (chain : Chain) (token : Address)
  | tokenMintMismatch (expected got : Address)
  | unknownPool (mint : Address)
  | relationInUse (mint : Address) (outstanding : UInt64)
  | zeroAmount
  | amountOverflow
  | custodyTransferFailed (cause : FundsError)
  | insufficientFunds (requested available : UInt64)
  | insufficientLiquidity (requested available : UInt64)
  | invalidFeeRate (rate : UInt64)
  | unknownPosition (provider : Address)
deriving DecidableEq

def AddressError.fullMessage (e : AddressError) : String := "Invalid address: " ++ e.message

def DerivationError.message : DerivationError → String
  | .seed cause => "Invalid seed: " ++ cause.message
  | .noBump => "No valid bump seed found for program address"

/-- The words in which a caller is told. -/
def BridgeError.message : BridgeError → String
  | store cause => cause.message
  | unauthorized role => s!"Unauthorized: only {role.text} can perform this action"
  | alreadyInitialized => "Bridge is already initialized"
  | notInitialized => "Bridge is not initialized"
  | invalidSettings cause => "Invalid settings: " ++ cause.message
  | invalidAddress cause => cause.fullMessage
  | derivation cause => cause.message
  | bumpMismatch given derived =>
    s!"Invalid seed: config bump {given} does not match derived bump {derived}"
  | unknownChainRelation chain => s!"Chain relation not found: {chain.text}"
  | chainInactive chain => s!"Chain is inactive: {chain.text}"
  | unknownTokenRelation chain token =>
    s!"Token relation not found: {token.toHex} on {chain.text}"
  | tokenMintMismatch expected got =>
    s!"Token mint mismatch: relation expects {expected.toBase58}, got {got.toBase58}"
  | unknownPool mint => s!"Custody pool not found for mint {mint.toBase58}"
  | relationInUse mint outstanding =>
    s!"Relation still backs {outstanding} locked tokens of mint {mint.toBase58}"
  | zeroAmount => "Amount must be greater than zero"
  | amountOverflow => "Amount overflow"
  | custodyTransferFailed cause => "Custody transfer failed: " ++ cause.message
  | insufficientFunds requested available =>
    s!"Insufficient funds: requested {requested}, available {available}"
  | insufficientLiquidity requested available =>
    s!"Insufficient pool liquidity: requested {requested}, available {available}"
  | invalidFeeRate rate => s!"Invalid pool fee rate {rate}: must not exceed 1000000"
  | unknownPosition provider => s!"Liquidity position not found for {provider.toBase58}"

end CustodyBridge
