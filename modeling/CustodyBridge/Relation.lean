import CustodyBridge.Record.Program

/-!
# Relations

A chain relation makes a destination known and says whether it takes proposals. A token relation
maps a token of another chain to the local mint whose pool backs it.
-/

namespace CustodyBridge

open JsonForm

/-! ## Chain relations -/

/-- What the bridge knows of a chain that proposals go to. -/
structure ChainRelation where
  chain : Chain
  /-- The contract that executes proposals on the destination. -/
  executor : Address
  /-- The token in which the destination charges its fee. -/
  feeToken : Address
  active : Bool
deriving DecidableEq

instance : Record ChainRelation where
  table := .chainRelations
  toJson r := .object [
    ("chain", toJson r.chain), ("executor", toJson r.executor),
    ("fee_token", toJson r.feeToken), ("active", toJson r.active)]
  ofJson? j := do
    let fields ← j.fields? ["chain", "executor", "fee_token", "active"]
    return ⟨← fields.required "chain", ← fields.required "executor",
      ← fields.required "fee_token", ← fields.required "active"⟩

/-- The fields of a chain relation to set. The others stay as they are. -/
structure ChainRelationUpdate where
  executor? : Option Address
  feeToken? : Option Address
  active? : Option Bool
deriving DecidableEq

namespace ChainRelation

/-- A relation with nothing set takes proposals. -/
def opened (chain : Chain) : ChainRelation := ⟨chain, Address.zero, Address.zero, true⟩

/-- A field that the update does not set stays as it is. -/
def update (r : ChainRelation) (u : ChainRelationUpdate) : ChainRelation :=
  { r with
    executor := u.executor?.getD r.executor
    feeToken := u.feeToken?.getD r.feeToken
    active := u.active?.getD r.active }

def load (a : Account) (chain : Chain) : Handler ChainRelation := do
  Program.require (← Record.load? ChainRelation a) (.unknownChainRelation chain)

def runIsActive (a : Account) (chain : Chain) : Handler Bool := do
  return (← load a chain).active

/-- The relation of a chain that takes proposals. -/
def loadActive (a : Account) (chain : Chain) : Handler ChainRelation := do
  let relation ← load a chain
  if relation.active then return relation else Program.fail (.chainInactive chain)

/-- Sets fields of the relation of a chain, which is opened if need be. -/
def runUpdate (a : Account) (chain : Chain) (u : ChainRelationUpdate) :
    Handler ChainRelation := do
  let relation := ((← Record.load? ChainRelation a).getD (opened chain)).update u
  Record.save a relation
  return relation

end ChainRelation

/-! ## Token relations -/

/-- A token of another chain, and the mint that stands for it here. -/
structure TokenRelation where
  chain : Chain
  foreignToken : Address
  foreignDecimals : UInt8
  localMint : Address
  localDecimals : UInt8
  pool : Account
deriving DecidableEq

instance : Record TokenRelation where
  table := .tokenRelations
  toJson r := .object [
    ("chain", toJson r.chain), ("foreign_token", toJson r.foreignToken),
    ("foreign_decimals", toJson r.foreignDecimals), ("local_mint", toJson r.localMint),
    ("local_decimals", toJson r.localDecimals), ("pool", toJson r.pool)]
  ofJson? j := do
    let fields ← j.fields? [
      "chain", "foreign_token", "foreign_decimals", "local_mint", "local_decimals", "pool"]
    return {
      chain := ← fields.required "chain"
      foreignToken := ← fields.required "foreign_token"
      foreignDecimals := ← fields.required "foreign_decimals"
      localMint := ← fields.required "local_mint"
      localDecimals := ← fields.required "local_decimals"
      pool := ← fields.required "pool" }

namespace TokenRelation

/-- The relation of a token. -/
def load (a : Account) (chain : Chain) (token : Address) : Handler TokenRelation := do
  Program.require (← Record.load? TokenRelation a) (.unknownTokenRelation chain token)

/-- The relation of a token, which must map it to a given mint. -/
def loadFor (a : Account) (chain : Chain) (token mint : Address) : Handler TokenRelation := do
  let relation ← load a chain token
  if relation.localMint ≠ mint then Program.fail (.tokenMintMismatch relation.localMint mint)
  else return relation

def runSet (a : Account) (r : TokenRelation) : Handler Unit := Record.save a r

def runRemove (a : Account) (chain : Chain) (token : Address) : Handler TokenRelation := do
  let relation ← load a chain token
  Record.remove TokenRelation a
  return relation

/-! ## Listing -/

/-- The relation of an entry of the table, and its account. -/
def ofEntry (entry : Bytes × String) : Handler (Address × TokenRelation) := do
  let relation ← Program.require (read? entry.2) (.store .unreadable)
  match Address.ofBytes (entry.1.drop Table.tokenRelations.lead.length) with
  | .ok address => return (address, relation)
  | .error cause => Program.fail (.store (.other cause.fullMessage))

def ofEntries : List (Bytes × String) → Handler (List (Address × TokenRelation))
  | [] => return []
  | entry :: rest => do
    let relation ← ofEntry entry
    let relations ← ofEntries rest
    return relation :: relations

/-- Where a list starts: at the table's first key, or right behind a given account's. -/
def listStart (after? : Option Address) : Bytes :=
  match after? with
  | none => Table.tokenRelations.lead
  | some a => Table.tokenRelations.key a ++ [0]

/-- The first relations behind a given account, in the order of accounts. -/
def runList (after? : Option Address) (limit : Nat) :
    Handler (List (Address × TokenRelation)) := do
  let entries ← Program.range (some (listStart after?)) (some Table.tokenRelations.bound) .ascending
  ofEntries (entries.take limit)

end TokenRelation

end CustodyBridge
