import Caden.Lib.Outcome
import Caden.Lib.Slice
import Caden.Lib.BigEndian
import Caden.Lib.Der
import Caden.Lib.Fold
import Caden.Lib.Text
import Caden.Error
import Caden.Env
import Caden.Crypto
import Caden.Credential
import Caden.ClientData
import Caden.AuthData
import Caden.CertBytes
import Caden.Tpm
import Caden.X5c
import Caden.AttStmt
import Caden.Attestation
import Caden.AttestationSpec
import Caden.RelyingParty
import Caden.Registration
import Caden.RegistrationSpec
import Caden.Recorded
import Caden.Compromised
import Caden.Authentication
import Caden.AuthenticationSpec
import Caden.Metadata
import Caden.MetadataSpec
import Caden.MetadataSafety
import Caden.Lib.Registry
import Caden.Ceremony
import Caden.SingleUse
import Caden.Lib.Counter
import Caden.SignCount
import Caden.Concurrent
import Caden.Options
import Caden.Identity
import Caden.Offer
import Caden.Lib.Matched
import Caden.Policy
import Caden.Backup
import Caden.Seal
import Caden.Transplant
import Caden.Algorithms
import Caden.Issuers
import Caden.Grammar
import Caden.CoseKeys
import Caden.ChallengeEffect
import Caden.TpmFormat
import Caden.TpmPubArea
import Caden.TpmCertInfo
import Caden.TpmCursor
import Caden.AppleNonce
import Caden.DerTlv
import Caden.CertScan
import Caden.RsaDer
import Caden.AaguidText
import Caden.MetadataErrors
import Caden.MapOrder
import Caden.Lib.Tasks
import Caden.Lib.Tickets
import Caden.Server
import Caden.ServerSpec
import Caden.ServerSafety
import Caden.Demo
import Caden.DemoKeys
import Caden.HonestRun
import Caden.TpmAccepts
import Caden.Attested
import Caden.Relabelled
import Caden.Lib.Serial
import Caden.Serializable
import Caden.Lib.Agreement
import Caden.Agreement
import Caden.Lib.Json
import Caden.Wire
import Caden.Lossless
import Caden.DemoMain
import Caden.Extensions
import Caden.SignedOutputs
import Caden.Mds
