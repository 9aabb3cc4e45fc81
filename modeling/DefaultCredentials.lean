import DefaultCredentials.Authorized
import DefaultCredentials.HttpClient
import DefaultCredentials.Main
import DefaultCredentials.Proofs.AssertedClaims
import DefaultCredentials.Proofs.Confidentiality
import DefaultCredentials.Proofs.CredentialDocuments
import DefaultCredentials.Proofs.Crowd
import DefaultCredentials.Proofs.DefaultCertificate
import DefaultCredentials.Proofs.DiscoveryFailures
import DefaultCredentials.Proofs.DocumentRoundTrip
import DefaultCredentials.Proofs.DocumentShapes
import DefaultCredentials.Proofs.DoubleBits
import DefaultCredentials.Proofs.Exposure
import DefaultCredentials.Proofs.FormFields
import DefaultCredentials.Proofs.Indistinguishable
import DefaultCredentials.Proofs.InjectedSettings
import DefaultCredentials.Proofs.Lifecycle
import DefaultCredentials.Proofs.LoggedLines
import DefaultCredentials.Proofs.NearestDouble
import DefaultCredentials.Proofs.NestingLimit
import DefaultCredentials.Proofs.NumberRoundTrip
import DefaultCredentials.Proofs.OptionNames
import DefaultCredentials.Proofs.OrderedDiscovery
import DefaultCredentials.Proofs.RaisingCalls
import DefaultCredentials.Proofs.RefusalCost
import DefaultCredentials.Proofs.Replay
import DefaultCredentials.Proofs.ScopeTexts
import DefaultCredentials.Proofs.ScopedVariants
import DefaultCredentials.Proofs.SearchSteps
import DefaultCredentials.Proofs.SecretMaterial
import DefaultCredentials.Proofs.SharedDiscovery
import DefaultCredentials.Proofs.SharedExchanges
import DefaultCredentials.Proofs.ShortestDecimal
import DefaultCredentials.Proofs.SingleRetry
import DefaultCredentials.Proofs.TextOctets
import DefaultCredentials.Proofs.TokenAnswers
import DefaultCredentials.Proofs.TokenArguments
import DefaultCredentials.Proofs.TokenCommand
import DefaultCredentials.Proofs.TokenRequests
import DefaultCredentials.Proofs.TraceView
import DefaultCredentials.Proofs.TrustDecision
import DefaultCredentials.Proofs.UsableSettings
import DefaultCredentials.Proofs.MarkedBlocks
import DefaultCredentials.Proofs.OrderlyDocuments
import DefaultCredentials.Proofs.MixedMaterial
import DefaultCredentials.Proofs.AuthorizationHeader
import DefaultCredentials.Proofs.CertificateOptIn
import DefaultCredentials.Proofs.StablePaths
import DefaultCredentials.Proofs.CopiedFailures
import DefaultCredentials.Proofs.NamedFiles
import DefaultCredentials.Proofs.AuditedDecisions
