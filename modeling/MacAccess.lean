import MacAccess.Signer
import MacAccess.Proofs.Basic
import MacAccess.Proofs.Utf8
import MacAccess.Proofs.Separator
import MacAccess.Proofs.Base64
import MacAccess.Proofs.Authorization
import MacAccess.Proofs.Request
import MacAccess.Proofs.CanonicalRequest
import MacAccess.Proofs.Signing
import MacAccess.Proofs.Verification
import MacAccess.Proofs.Resigning
import MacAccess.Proofs.Provider
import MacAccess.Proofs.Signer
import MacAccess.Proofs.Interleaving
import MacAccess.Proofs.Session
import MacAccess.Proofs.Verdict
import MacAccess.Proofs.Resolution
import MacAccess.Proofs.Concealment
import MacAccess.Proofs.Grammar
import MacAccess.Proofs.Decision
import MacAccess.Proofs.Effect
import MacAccess.Proofs.Profile
import MacAccess.Proofs.Port
import MacAccess.Proofs.Digits
import MacAccess.Proofs.Nonce
import MacAccess.Proofs.Usable
import MacAccess.Proofs.Disclosure
