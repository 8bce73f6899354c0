import SessionTokens.Base64
import SessionTokens.Endian
import SessionTokens.FileTree
import SessionTokens.Grant
import SessionTokens.Halt
import SessionTokens.Hash.Sha2
import SessionTokens.Hash.Sha256
import SessionTokens.Hash.Sha512
import SessionTokens.Json.Leading
import SessionTokens.Json.Number
import SessionTokens.Json.Read
import SessionTokens.Json.Syntax
import SessionTokens.Key.Der
import SessionTokens.Key.Pem
import SessionTokens.Key.PrivateKeyInfo
import SessionTokens.Platform
import SessionTokens.Proofs.Json.RoundTrip
import SessionTokens.Proofs.Text.Ascii
import SessionTokens.Service.Basic
import SessionTokens.Service.Config
import SessionTokens.Service.Error
import SessionTokens.Session.Keys
import SessionTokens.Session.Record
import SessionTokens.Session.Store
import SessionTokens.Session.Transaction
import SessionTokens.Signature.Curve
import SessionTokens.Signature.Edwards
import SessionTokens.Signature.Modular
import SessionTokens.Signature.Rsa
import SessionTokens.Store.Basic
import SessionTokens.Store.Commit
import SessionTokens.Store.Config
import SessionTokens.Store.Entry
import SessionTokens.Store.Error
import SessionTokens.Store.KeyMap
import SessionTokens.Store.Limits
import SessionTokens.Store.Pending
import SessionTokens.Store.Range
import SessionTokens.Store.Snapshot
import SessionTokens.Store.Sweep
import SessionTokens.Store.Transaction
import SessionTokens.Text.Blank
import SessionTokens.Text.Decimal
import SessionTokens.Text.Hex
import SessionTokens.Text.Utf8
import SessionTokens.Text.Visible
import SessionTokens.Time.Calendar
import SessionTokens.Time.Clock
import SessionTokens.Time.Duration
import SessionTokens.Time.Instant
import SessionTokens.Time.Lifetime
import SessionTokens.Time.Timestamp
import SessionTokens.Token.Algorithm
import SessionTokens.Token.Claims
import SessionTokens.Token.Config
import SessionTokens.Token.Error
import SessionTokens.Token.Header
import SessionTokens.Token.Issuer
import SessionTokens.Token.Keys
import SessionTokens.Trace
import SessionTokens.Proofs.Json.Structure
import SessionTokens.Proofs.Time.Calendar
import SessionTokens.Proofs.Time.Timestamp
import SessionTokens.Proofs.Session.Codec
import SessionTokens.Proofs.Store.Snapshot
import SessionTokens.Proofs.Store.Durable
import SessionTokens.Proofs.Session.Book
import SessionTokens.Proofs.Session.Operations
import SessionTokens.Proofs.Session.Refinement
import SessionTokens.Proofs.Service.Effects
import SessionTokens.Proofs.Service.Invariant
import SessionTokens.Proofs.Service.Consistency
import SessionTokens.Proofs.Service.Provenance
import SessionTokens.Proofs.Service.Revocation
import SessionTokens.Proofs.Store.AllOrNothing
import SessionTokens.Proofs.Store.History
import SessionTokens.Proofs.Service.Failure
import SessionTokens.Proofs.Service.Answers
import SessionTokens.Proofs.Service.Isolation
import SessionTokens.Proofs.Service.Change
import SessionTokens.Proofs.Store.ReadAhead
import SessionTokens.Proofs.Store.Turns
import SessionTokens.Proofs.Token.Issued
import SessionTokens.Proofs.Token.Genuine
import SessionTokens.Proofs.Service.Availability
import SessionTokens.Proofs.Token.Pair
import SessionTokens.Proofs.Store.Trimmed
import SessionTokens.Proofs.Service.Sweeping
import SessionTokens.Proofs.Session.Lookups
import SessionTokens.Proofs.Session.Size
import SessionTokens.Proofs.Service.Rotation
import SessionTokens.Proofs.Service.Holdings
import SessionTokens.Proofs.Service.Renewal
import SessionTokens.Proofs.Service.Opening
import SessionTokens.Proofs.Service.BulkRevocation
import SessionTokens.Proofs.Service.Ownership
import SessionTokens.Proofs.Text.Base64
import SessionTokens.Proofs.Json.Fields
import SessionTokens.Proofs.Grant
import SessionTokens.Proofs.Token.Payload
import SessionTokens.Proofs.Session.Fidelity
import SessionTokens.Proofs.Store.Closing
import SessionTokens.Proofs.Service.Closing
import SessionTokens.Proofs.Text.Trim
import SessionTokens.Proofs.Platform
import SessionTokens.Proofs.Store.PrefixScan
import SessionTokens.Proofs.Store.Document
import SessionTokens.Proofs.Time.Lifetime
import SessionTokens.Proofs.Json.Leading
import SessionTokens.Proofs.Service.Config
