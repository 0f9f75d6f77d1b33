import TronGateway.Abi
import TronGateway.Action
import TronGateway.Address
import TronGateway.Asset
import TronGateway.Coin
import TronGateway.Cursor
import TronGateway.Curve.Key
import TronGateway.Curve.Point
import TronGateway.Curve.Signature
import TronGateway.Error
import TronGateway.Fee
import TronGateway.Gateway
import TronGateway.Hash.Hmac
import TronGateway.Hash.Keccak256
import TronGateway.Hash.Sha256
import TronGateway.Http.Endpoint
import TronGateway.Http.Exchange
import TronGateway.Http.Record
import TronGateway.Http.Url
import TronGateway.Ingest
import TronGateway.Json.Decode
import TronGateway.Json.Printer
import TronGateway.Json.Reader
import TronGateway.Json.Syntax
import TronGateway.Json.Value
import TronGateway.KeyText
import TronGateway.Keysign
import TronGateway.Main
import TronGateway.Memory
import TronGateway.Message
import TronGateway.Node.Block
import TronGateway.Node.Call
import TronGateway.Node.Reply
import TronGateway.Node.Service
import TronGateway.Number.Amount
import TronGateway.Number.BigEndian
import TronGateway.Number.Binary64
import TronGateway.Number.Checked
import TronGateway.Number.Decimal
import TronGateway.Number.Quantity
import TronGateway.Number.Radix
import TronGateway.Observation
import TronGateway.Observer
import TronGateway.Order
import TronGateway.Payment
import TronGateway.PaymentRecord
import TronGateway.Program
import TronGateway.Proofs.Abi
import TronGateway.Proofs.Abi.Answer
import TronGateway.Proofs.Abi.Slices
import TronGateway.Proofs.Abi.Transfer
import TronGateway.Proofs.Action
import TronGateway.Proofs.Address
import TronGateway.Proofs.Address.Accepted
import TronGateway.Proofs.Address.Slices
import TronGateway.Proofs.Address.Spelling
import TronGateway.Proofs.Asset
import TronGateway.Proofs.Asset.Spelling
import TronGateway.Proofs.Coin
import TronGateway.Proofs.Coin.Range
import TronGateway.Proofs.Fee
import TronGateway.Proofs.Fee.Amount
import TronGateway.Proofs.Fee.Range
import TronGateway.Proofs.Ingest
import TronGateway.Proofs.Interleaving.Record
import TronGateway.Proofs.Interleaving.Step
import TronGateway.Proofs.Json.Decode
import TronGateway.Proofs.Json.Size
import TronGateway.Proofs.Json.Text
import TronGateway.Proofs.Json.Tree
import TronGateway.Proofs.Json.Untyped
import TronGateway.Proofs.Json.Value
import TronGateway.Proofs.KeyText
import TronGateway.Proofs.Message
import TronGateway.Proofs.Node.Reply
import TronGateway.Proofs.Number.Amount
import TronGateway.Proofs.Number.Bytes
import TronGateway.Proofs.Number.Checked
import TronGateway.Proofs.Number.Decimal
import TronGateway.Proofs.Number.Radix
import TronGateway.Proofs.Number.Stages
import TronGateway.Proofs.Observer
import TronGateway.Proofs.Order
import TronGateway.Proofs.Payment
import TronGateway.Proofs.Payment.Amount
import TronGateway.Proofs.Payment.Backend
import TronGateway.Proofs.Payment.Blame
import TronGateway.Proofs.Payment.Carried
import TronGateway.Proofs.Payment.Ingested
import TronGateway.Proofs.Payment.Questions
import TronGateway.Proofs.Payment.RoundTrip
import TronGateway.Proofs.Payment.Success
import TronGateway.Proofs.Payment.Suppressed
import TronGateway.Proofs.PaymentRecord
import TronGateway.Proofs.Program
import TronGateway.Proofs.RefBlock
import TronGateway.Proofs.RefBlock.Choice
import TronGateway.Proofs.RefBlock.Ring
import TronGateway.Proofs.Runner.Health
import TronGateway.Proofs.Runner.History
import TronGateway.Proofs.Runner.Medium
import TronGateway.Proofs.Runner.Restart
import TronGateway.Proofs.Runner.Signs
import TronGateway.Proofs.Runner.Step
import TronGateway.Proofs.Runner.Trace
import TronGateway.Proofs.Runner.Unhealthy
import TronGateway.Proofs.Scanner
import TronGateway.Proofs.Scanner.Balances
import TronGateway.Proofs.Scanner.Fetch
import TronGateway.Proofs.Scanner.Questions
import TronGateway.Proofs.Slice
import TronGateway.Proofs.Solvency
import TronGateway.Proofs.Solvency.Insolvent
import TronGateway.Proofs.Solvency.Queue
import TronGateway.Proofs.Solvency.Recheck
import TronGateway.Proofs.Solvency.Verdict
import TronGateway.Proofs.Store
import TronGateway.Proofs.Store.Maps
import TronGateway.Proofs.Text.Base58
import TronGateway.Proofs.Text.Bech32
import TronGateway.Proofs.Text.Blank
import TronGateway.Proofs.Text.Hex
import TronGateway.Proofs.Text.Uppercase
import TronGateway.Proofs.Text.Utf8
import TronGateway.Proofs.Transaction.Broadcast
import TronGateway.Proofs.Transaction.Rehash
import TronGateway.Proofs.Transaction.Text
import TronGateway.Proofs.Whitelist
import TronGateway.Proofs.Wire.Canonical
import TronGateway.Proofs.Wire.Field
import TronGateway.Proofs.Wire.Message
import TronGateway.Proofs.Wire.Size
import TronGateway.Proofs.World
import TronGateway.RefBlock
import TronGateway.Rehearsal.Clock
import TronGateway.Rehearsal.Desk
import TronGateway.Rehearsal.FaultyStore
import TronGateway.Rehearsal.Launch
import TronGateway.Rehearsal.Line
import TronGateway.Rehearsal.Queue
import TronGateway.Rehearsal.Routes
import TronGateway.Rehearsal.Script
import TronGateway.Rehearsal.Session
import TronGateway.Rehearsal.Tables
import TronGateway.Runner
import TronGateway.Scanner
import TronGateway.Settings.Basic
import TronGateway.Settings.Environment
import TronGateway.Settings.Path
import TronGateway.Settings.Reading
import TronGateway.Settings.Tree
import TronGateway.Signer
import TronGateway.SolvencyCheck
import TronGateway.Store
import TronGateway.Text.Base58
import TronGateway.Text.Bech32
import TronGateway.Text.Blank
import TronGateway.Text.Hex
import TronGateway.Text.Hidden
import TronGateway.Text.Quoted
import TronGateway.Text.Uppercase
import TronGateway.Text.Utf8
import TronGateway.Token
import TronGateway.Toml.Document
import TronGateway.Toml.Moment
import TronGateway.Toml.Node
import TronGateway.Toml.Number
import TronGateway.Toml.Token
import TronGateway.Toml.Value
import TronGateway.Transaction.Basic
import TronGateway.Transaction.Rehash
import TronGateway.Vault
import TronGateway.Whitelist
import TronGateway.Wire.Field
import TronGateway.Wire.Message
