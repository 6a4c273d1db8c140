import Countersign.Client.Connection
import Countersign.Client.Exchange
import Countersign.Client.Wire
import Countersign.Command.Arguments
import Countersign.Command.Execute
import Countersign.Command.Outcome
import Countersign.Command.Target
import Countersign.Credential
import Countersign.Crypto.Curve
import Countersign.Crypto.Digest
import Countersign.Crypto.Ecdsa
import Countersign.Crypto.Edwards
import Countersign.Crypto.Modular
import Countersign.Crypto.Rsa
import Countersign.Error
import Countersign.Header.Access
import Countersign.Header.Challenge
import Countersign.Header.Grammar
import Countersign.Header.Link
import Countersign.Header.Parameters
import Countersign.Instant
import Countersign.Json.Basic
import Countersign.Json.Decode
import Countersign.Json.Reader
import Countersign.Json.Writer
import Countersign.Keys.Keyring
import Countersign.Keys.Pem
import Countersign.Keys.Pkcs8
import Countersign.Keys.PossessionProof
import Countersign.Keys.ProofKey
import Countersign.Main
import Countersign.Message
import Countersign.Negotiation.Authenticator
import Countersign.Negotiation.Registry
import Countersign.Run.Program
import Countersign.Run.Schedule
import Countersign.Run.World
import Countersign.Session.Basic
import Countersign.Session.Cache
import Countersign.Session.Slot
import Countersign.Settings.Basic
import Countersign.Settings.Files
import Countersign.Text.Ascii
import Countersign.Text.Base64
import Countersign.Text.Blank
import Countersign.Text.Decimal
import Countersign.Text.Order
import Countersign.Text.Printable
import Countersign.Text.Quoted
import Countersign.Text.Utf8
import Countersign.Text.Uuid
import Countersign.Token.Algorithm
import Countersign.Token.Claims
import Countersign.Token.Compact
import Countersign.Token.Header
import Countersign.Token.IdToken
import Countersign.Token.KeySet
import Countersign.Token.Signature
import Countersign.Toml.Basic
import Countersign.Toml.Reader
import Countersign.Toml.Scalar
import Countersign.Toml.Tree
import Countersign.Uma.Claims
import Countersign.Uma.Discovery
import Countersign.Uma.Documents
import Countersign.Uma.Provider
import Countersign.Uma.TicketExchange
import Countersign.Url.Basic
import Countersign.Url.Host
import Countersign.Url.Idna.Classes
import Countersign.Url.Idna.Composed
import Countersign.Url.Idna.Direction
import Countersign.Url.Idna.Domain
import Countersign.Url.Idna.Mapped
import Countersign.Url.Parser
import Countersign.Url.Path
import Countersign.Url.Percent
import Countersign.Url.Punycode
import Countersign.Proofs.Sending
import Countersign.Proofs.Interleaving
import Countersign.Proofs.SlotCalls
import Countersign.Proofs.SingleFlight
import Countersign.Proofs.Audience
import Countersign.Proofs.Footprint
import Countersign.Proofs.CacheHistory
import Countersign.Proofs.ResourceKeys
import Countersign.Proofs.CacheCalls
import Countersign.Proofs.Errands
import Countersign.Proofs.Provenance
import Countersign.Proofs.Vouching
import Countersign.Proofs.CompactTokens
import Countersign.Proofs.ProofBinding
import Countersign.Proofs.SessionCalls
import Countersign.Proofs.Forgetting
import Countersign.Proofs.HeaderGrammar
import Countersign.Proofs.ChallengeReading
import Countersign.Proofs.ChallengeWriting
import Countersign.Proofs.ChallengeSpacing
import Countersign.Proofs.BareToken68
import Countersign.Proofs.FormBodies
import Countersign.Proofs.TicketRounds
import Countersign.Proofs.Acquiring
import Countersign.Proofs.KeyBinding
import Countersign.Proofs.FailedNegotiation
import Countersign.Proofs.SlotAnswers
import Countersign.Proofs.LinkWriting
import Countersign.Proofs.FailedUpgrade
import Countersign.Proofs.Selection
import Countersign.Proofs.BoundTokens
import Countersign.Proofs.TokenPresentation
import Countersign.Proofs.ExpiryChecks
import Countersign.Proofs.SlotFailures
import Countersign.Proofs.AccessUnion
import Countersign.Proofs.RegistryBuilding
import Countersign.Proofs.KeyTable
import Countersign.Proofs.LinkTargets
import Countersign.Proofs.DiscoveryCache
import Countersign.Proofs.ChallengeEquality
import Countersign.Proofs.TwoRuns
import Countersign.Proofs.Calendar
import Countersign.Proofs.Lifetimes
import Countersign.Proofs.KeyDocuments
import Countersign.Proofs.SessionNames
import Countersign.Proofs.Principals
import Countersign.Proofs.QuotedStrings
import Countersign.Proofs.HeaderProgress
