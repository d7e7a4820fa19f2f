import Keyring.Config.Document
import Keyring.Http.Script
import Keyring.Json.Parse
import Keyring.Metrics.Exporter
import Keyring.Signer
import Keyring.Source
import Keyring.Time.Clock
import Keyring.Proofs.Http.Body
import Keyring.Proofs.Source.Shared
import Keyring.Proofs.Source.History
import Keyring.Proofs.Source.Serial
import Keyring.Proofs.Source.Provenance
import Keyring.Proofs.Number.Octets
import Keyring.Proofs.Result
import Keyring.Proofs.Rsa.Verification
import Keyring.Proofs.Text.Base64
import Keyring.Proofs.Token.Verdict
import Keyring.Proofs.Source.Atomicity
import Keyring.Proofs.Source.Access
import Keyring.Proofs.Source.Policies
import Keyring.Proofs.Source.Freshness
import Keyring.Proofs.Text.Utf8
import Keyring.Proofs.Text.Lossy
import Keyring.Proofs.Json.Grammar
import Keyring.Proofs.Json.Passing
import Keyring.Proofs.Json.Reading
import Keyring.Proofs.Token.Header
import Keyring.Proofs.Rsa.Signing
import Keyring.Proofs.Token.RoundTrip
import Keyring.Proofs.Source.Moves
import Keyring.Proofs.Source.Verifying
import Keyring.Proofs.Source.Finality
import Keyring.Proofs.Text.Order
import Keyring.Proofs.PublishedKey.Entries
import Keyring.Proofs.Http.MaxAge
import Keyring.Proofs.Source.Stages
import Keyring.Proofs.Metrics.Tally
import Keyring.Proofs.Source.Accounts
import Keyring.Proofs.Source.Progress
import Keyring.Proofs.Source.Burst
import Keyring.Proofs.Json.Spelling
import Keyring.Proofs.Json.TextMap
import Keyring.Proofs.PublishedKey.Documents
import Keyring.Proofs.Source.Verifier
import Keyring.Proofs.Http.Redirects
import Keyring.Proofs.Source.Encryption
import Keyring.Proofs.Number.Powers
import Keyring.Proofs.Rsa.Uniqueness
import Keyring.Proofs.Rsa.Factors
import Keyring.Proofs.Token.Binding
import Keyring.Proofs.Http.Framing
import Keyring.Proofs.Decimal.Natural
import Keyring.Proofs.Http.Directives
import Keyring.Proofs.Time.Elapsed
import Keyring.Proofs.Time.Words
import Keyring.Proofs.Source.Expiry
import Keyring.Proofs.Asn1.Der
import Keyring.Proofs.Rsa.Wrapping
import Keyring.Proofs.Rsa.Encodings
import Keyring.Proofs.Json.Skipped
import Keyring.Proofs.Json.Records
import Keyring.Proofs.Json.Unambiguous
import Keyring.Proofs.Token.OneReading
import Keyring.Proofs.Metrics.Latency
import Keyring.Proofs.Json.Layout
import Keyring.Proofs.Json.Writing
import Keyring.Proofs.Signer.Credentials
import Keyring.Proofs.Config.Lengths
import Keyring.Proofs.Config.Settings
import Keyring.Proofs.Config.Documents
import Keyring.Proofs.Text.Padding
import Keyring.Proofs.Pem.Armour
import Keyring.Proofs.Asn1.Element
import Keyring.Proofs.Asn1.ObjectId
import Keyring.Proofs.Rsa.PublicInfo
import Keyring.Proofs.Certificate.SubjectKey
import Keyring.Proofs.Certificate.Writing
import Keyring.Proofs.PublishedKey.Certificates
import Keyring.Proofs.Time.Shift
import Keyring.Proofs.Time.Locked
import Keyring.Proofs.Time.Handles
