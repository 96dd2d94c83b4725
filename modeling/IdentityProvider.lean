import IdentityProvider.Credentials
import IdentityProvider.Log.Config
import IdentityProvider.Password.Config
import IdentityProvider.Service.Files
import IdentityProvider.Service.Session
import IdentityProvider.Proofs.Chain
import IdentityProvider.Proofs.Cutting
import IdentityProvider.Proofs.Token.Parsing
import IdentityProvider.Proofs.Base64
import IdentityProvider.Proofs.Json.Lexing
import IdentityProvider.Proofs.Json.RoundTrip
import IdentityProvider.Proofs.Token.Signing
import IdentityProvider.Proofs.Service.Steps
import IdentityProvider.Proofs.Service.ActiveKey
import IdentityProvider.Proofs.Service.Refresh
import IdentityProvider.Proofs.Bytes
import IdentityProvider.Proofs.Decimal
import IdentityProvider.Proofs.Password.Argon2Hash
import IdentityProvider.Proofs.Password.BcryptHash
import IdentityProvider.Proofs.Password.Checking
import IdentityProvider.Proofs.Password.Hashing
import IdentityProvider.Proofs.Credentials
import IdentityProvider.Proofs.Storage.Lookups
import IdentityProvider.Proofs.Storage.TokenHistory
import IdentityProvider.Proofs.Service.Presentation
import IdentityProvider.Proofs.Service.Provenance
import IdentityProvider.Proofs.Modular
import IdentityProvider.Proofs.Primality
import IdentityProvider.Proofs.P256.Points
import IdentityProvider.Proofs.Key.Der
import IdentityProvider.Proofs.Key.Pem
import IdentityProvider.Proofs.Key.Document
import IdentityProvider.Proofs.Key.Detection
import IdentityProvider.Proofs.Key.RoundTrip
import IdentityProvider.Proofs.Key.Publishing
import IdentityProvider.Proofs.Log.Replacing
import IdentityProvider.Proofs.Log.Patterns
import IdentityProvider.Proofs.Log.StoredHashes
import IdentityProvider.Proofs.Log.Places
import IdentityProvider.Proofs.Log.Shapes
import IdentityProvider.Proofs.Log.Closure
import IdentityProvider.Proofs.Log.SignedTokens
import IdentityProvider.Proofs.Token.Validation
import IdentityProvider.Proofs.Service.Rotation
import IdentityProvider.Proofs.Service.Issuance
import IdentityProvider.Proofs.Service.Revocation
import IdentityProvider.Proofs.Password.Argon2Grammar
import IdentityProvider.Proofs.Token.Spacing
import IdentityProvider.Proofs.Service.CarriedScopes
import IdentityProvider.Proofs.Service.RefreshIssuance
import IdentityProvider.Proofs.Password.Refusal
import IdentityProvider.Proofs.Password.BcryptStrings
import IdentityProvider.Proofs.Json.Citing
import IdentityProvider.Proofs.Json.Lengths
import IdentityProvider.Proofs.Log.Quoting
import IdentityProvider.Proofs.Log.Dots
import IdentityProvider.Proofs.Service.ParseLog
import IdentityProvider.Proofs.Token.Spelling
import IdentityProvider.Proofs.Key.NormalForm
import IdentityProvider.Proofs.Log.Correlation
import IdentityProvider.Proofs.Json.Formats
import IdentityProvider.Proofs.Token.Words
