import CustodyBridge.Address
import CustodyBridge.Amount
import CustodyBridge.Bridge.Administration
import CustodyBridge.Bridge.Answering
import CustodyBridge.Bridge.Environment
import CustodyBridge.Bridge.History
import CustodyBridge.Bridge.Operation
import CustodyBridge.Bridge.Provision
import CustodyBridge.Bridge.Registry
import CustodyBridge.Bridge.Session
import CustodyBridge.Bridge.Traffic
import CustodyBridge.Bridge.Transfer
import CustodyBridge.Bytes.Basic
import CustodyBridge.Bytes.Lemmas
import CustodyBridge.Chain
import CustodyBridge.Command
import CustodyBridge.Config
import CustodyBridge.Curve.Ed25519
import CustodyBridge.Decimals
import CustodyBridge.Derivation
import CustodyBridge.Digest.Keccak256
import CustodyBridge.Digest.Sha256
import CustodyBridge.Error
import CustodyBridge.Event
import CustodyBridge.FeeVault
import CustodyBridge.Funds
import CustodyBridge.Json.Basic
import CustodyBridge.Json.Escape
import CustodyBridge.Json.Form
import CustodyBridge.Json.Reader
import CustodyBridge.Ledger.Access
import CustodyBridge.Ledger.LockTable
import CustodyBridge.Ledger.Program
import CustodyBridge.Ledger.Store
import CustodyBridge.Ledger.Transaction
import CustodyBridge.Message
import CustodyBridge.NonceCounter
import CustodyBridge.Pool.Basic
import CustodyBridge.Pool.Program
import CustodyBridge.Proofs.Address
import CustodyBridge.Proofs.Amount
import CustodyBridge.Proofs.Bridge.Books
import CustodyBridge.Proofs.Bridge.Commuting
import CustodyBridge.Proofs.Bridge.Conversions
import CustodyBridge.Proofs.Bridge.Custody
import CustodyBridge.Proofs.Bridge.Deposits
import CustodyBridge.Proofs.Bridge.Destinations
import CustodyBridge.Proofs.Bridge.Effect
import CustodyBridge.Proofs.Bridge.Exits
import CustodyBridge.Proofs.Bridge.Fees
import CustodyBridge.Proofs.Bridge.Footprint
import CustodyBridge.Proofs.Bridge.Founding
import CustodyBridge.Proofs.Bridge.Frames
import CustodyBridge.Proofs.Bridge.Handlers
import CustodyBridge.Proofs.Bridge.Integrity
import CustodyBridge.Proofs.Bridge.Listing
import CustodyBridge.Proofs.Bridge.Movements
import CustodyBridge.Proofs.Bridge.Nonces
import CustodyBridge.Proofs.Bridge.Permission
import CustodyBridge.Proofs.Bridge.Proposals
import CustodyBridge.Proofs.Bridge.Proposing
import CustodyBridge.Proofs.Bridge.Providers
import CustodyBridge.Proofs.Bridge.Provision
import CustodyBridge.Proofs.Bridge.Purposes
import CustodyBridge.Proofs.Bridge.Refusals
import CustodyBridge.Proofs.Bridge.Relations
import CustodyBridge.Proofs.Bridge.Releases
import CustodyBridge.Proofs.Bridge.Removals
import CustodyBridge.Proofs.Bridge.Roles
import CustodyBridge.Proofs.Bridge.Run
import CustodyBridge.Proofs.Bridge.Safety
import CustodyBridge.Proofs.Bridge.Serial
import CustodyBridge.Proofs.Bridge.Sharing
import CustodyBridge.Proofs.Bridge.Traffic
import CustodyBridge.Proofs.Bridge.Withdrawals
import CustodyBridge.Proofs.Decimals
import CustodyBridge.Proofs.Derivation
import CustodyBridge.Proofs.FeeVault
import CustodyBridge.Proofs.Funds
import CustodyBridge.Proofs.Json.Exchange
import CustodyBridge.Proofs.Json.Forms
import CustodyBridge.Proofs.Json.RoundTrip
import CustodyBridge.Proofs.Ledger.Exec
import CustodyBridge.Proofs.Ledger.Footprint
import CustodyBridge.Proofs.Ledger.LockTable
import CustodyBridge.Proofs.Ledger.Locking
import CustodyBridge.Proofs.Ledger.Permission
import CustodyBridge.Proofs.Ledger.Transaction
import CustodyBridge.Proofs.Message
import CustodyBridge.Proofs.Pool.Accounting
import CustodyBridge.Proofs.Pool.Book
import CustodyBridge.Proofs.Pool.Deposits
import CustodyBridge.Proofs.Pool.Exits
import CustodyBridge.Proofs.Pool.Operations
import CustodyBridge.Proofs.Pool.Provision
import CustodyBridge.Proofs.Pool.Releases
import CustodyBridge.Proofs.Pool.Rewards
import CustodyBridge.Proofs.Pool.Sharing
import CustodyBridge.Proofs.Pool.Withdrawals
import CustodyBridge.Proofs.Purpose
import CustodyBridge.Proofs.Record.Ledger
import CustodyBridge.Proofs.Record.Ranges
import CustodyBridge.Proofs.Record.Readable
import CustodyBridge.Proofs.Record.RoundTrip
import CustodyBridge.Proofs.Record.Updates
import CustodyBridge.Proofs.SortedMap.Pages
import CustodyBridge.Proofs.SortedMap.Total
import CustodyBridge.Proofs.Text.Digits
import CustodyBridge.Proofs.Text.Radix
import CustodyBridge.Proofs.Words
import CustodyBridge.Proposal
import CustodyBridge.Purpose
import CustodyBridge.Query
import CustodyBridge.Receipt
import CustodyBridge.Record.Program
import CustodyBridge.Record.Table
import CustodyBridge.Relation
import CustodyBridge.Settings.Basic
import CustodyBridge.Settings.EnvFile
import CustodyBridge.Settings.Place
import CustodyBridge.Settings.Variables
import CustodyBridge.SortedMap.Basic
import CustodyBridge.SortedMap.Lemmas
import CustodyBridge.Text.Base58
import CustodyBridge.Text.CharClass
import CustodyBridge.Text.Hex
import CustodyBridge.Text.Integer
import CustodyBridge.Text.Quoted
import CustodyBridge.Text.Radix
