import ResolverSetup.CommandLine
import ResolverSetup.Main
import ResolverSetup.FileTree.Directory
import ResolverSetup.Logging.Conversion
import ResolverSetup.Logging.Setup
import ResolverSetup.Text.Word
import ResolverSetup.Proofs.EarliestBest
import ResolverSetup.Proofs.EffectiveForm
import ResolverSetup.Proofs.Confinement
import ResolverSetup.Proofs.OriginGrowth
import ResolverSetup.Proofs.AllOrNothing
import ResolverSetup.Proofs.Noninterference
import ResolverSetup.Proofs.Freezing
import ResolverSetup.Proofs.PropertyLayers
import ResolverSetup.Proofs.FlatDelivery
import ResolverSetup.Proofs.RepeatedMirroring
import ResolverSetup.Proofs.BuildOutcome
import ResolverSetup.Proofs.ConsoleLogging
import ResolverSetup.Proofs.WellFormedDocument
import ResolverSetup.Proofs.ExitStatus
import ResolverSetup.Proofs.PatternMeaning
import ResolverSetup.Proofs.HostExclusion
import ResolverSetup.Proofs.DocumentExpansion
import ResolverSetup.Proofs.KeyringHistory
import ResolverSetup.Proofs.ConnectorKeys
import ResolverSetup.Proofs.SealedCopy
import ResolverSetup.Proofs.UrlParts
import ResolverSetup.Proofs.DecryptedOnly
import ResolverSetup.Proofs.ProxyPrecedence
import ResolverSetup.Proofs.EncryptedSecrets
import ResolverSetup.Proofs.PathText
import ResolverSetup.Proofs.DocumentRoundTrip
import ResolverSetup.Proofs.KindHistory
import ResolverSetup.Proofs.TokenJoining
import ResolverSetup.Proofs.RepeatedSetup
import ResolverSetup.Proofs.HiddenSecrets
