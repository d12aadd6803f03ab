import CustodyBridge.Pool.Basic
import CustodyBridge.Record.Program

/-!
# Programs over pools

Loading a pool of a given mint and its positions, changing them, and saving them.
-/

namespace CustodyBridge

namespace Pool

/-- Opens the pool of a mint unless it is there. Answers whether it was opened. -/
def ensure (a : Account) (mint authority : Address) : Handler Bool := do
  if ← Record.exists? Pool a then return false
  else
    Record.save a (opened mint authority)
    Program.report (.poolCreated mint a.address)
    return true

/-- The pool of an account, which must be one of a given mint. -/
def load (a : Account) (mint : Address) : Handler Pool := do
  let pool ← Program.require (← Record.load? Pool a) (.unknownPool mint)
  if pool.mint ≠ mint then Program.fail (.tokenMintMismatch pool.mint mint)
  else return pool

/-- Answers the new balance. -/
def runLock (a : Account) (mint : Address) (amount : UInt64) : Handler UInt64 := do
  let pool ← load a mint
  let pool ← Program.ofOutcome (pool.lock amount)
  Record.save a pool
  return pool.balance

def runRelease (a : Account) (mint : Address) (amount : UInt64) : Handler Release := do
  let pool ← load a mint
  let (pool, release) ← Program.ofOutcome (pool.release amount)
  Record.save a pool
  return release

/-- What a mint's pool has outstanding. A pool that is not there has nothing. -/
def runOutstanding (a : Account) (mint : Address) : Handler UInt64 := do
  match ← Record.load? Pool a with
  | some pool => return if pool.mint = mint then pool.outstanding else 0
  | none => return 0

/-- Sets the fee rate, at most one whole. Answers the rate before. -/
def runSetFeeRate (a : Account) (mint : Address) (rate : UInt64) : Handler UInt64 := do
  if feeRateUnit < rate then Program.fail (.invalidFeeRate rate)
  else
    let pool ← load a mint
    Record.save a { pool with feeRate := rate }
    return pool.feeRate

end Pool

namespace Position

def load (a : Account) (provider : Address) : Handler Position := do
  Program.require (← Record.load? Position a) (.unknownPosition provider)

/-- Saves a pool and a position of it. -/
def save (poolAccount account : Account) (pool : Pool) (position : Position) : Handler Unit := do
  Record.save poolAccount pool
  Record.save account position

/-- Adds liquidity, to a new position if there is none. -/
def runAdd (poolAccount account : Account) (mint provider : Address) (amount : UInt64) :
    Handler Position := do
  if amount = 0 then Program.fail .zeroAmount
  else
    let pool ← Pool.load poolAccount mint
    let position := (← Record.load? Position account).getD (opened mint provider)
    let (pool, position) ← Program.ofOutcome (pool.addLiquidity position amount)
    save poolAccount account pool position
    return position

def runRemove (poolAccount account : Account) (mint provider : Address) (amount : UInt64) :
    Handler Position := do
  if amount = 0 then Program.fail .zeroAmount
  else
    let pool ← Pool.load poolAccount mint
    let position ← load account provider
    let (pool, position) ← Program.ofOutcome (pool.removeLiquidity position amount)
    save poolAccount account pool position
    return position

/-- Withdraws a reward. Answers what is left of it. -/
def runWithdraw (poolAccount account : Account) (mint provider : Address) (amount : UInt64) :
    Handler UInt64 := do
  if amount = 0 then Program.fail .zeroAmount
  else
    let pool ← Pool.load poolAccount mint
    let position ← load account provider
    let (pool, position) ← Program.ofOutcome (pool.withdrawReward position amount)
    save poolAccount account pool position
    return position.remaining

end Position

end CustodyBridge
