import AddressLeasing.Cli.Commands
import AddressLeasing.Cli.Help
import AddressLeasing.Cli.Parse
import AddressLeasing.Cli.Similarity
import AddressLeasing.Cli.Spec
import AddressLeasing.Client.Basic
import AddressLeasing.Client.Exchange
import AddressLeasing.Client.Link
import AddressLeasing.Client.Session
import AddressLeasing.Config.Client
import AddressLeasing.Config.Server
import AddressLeasing.Config.Store
import AddressLeasing.Decimal.Binary64
import AddressLeasing.Decimal.Shortest
import AddressLeasing.Error
import AddressLeasing.Json.Error
import AddressLeasing.Json.Reader
import AddressLeasing.Json.Record
import AddressLeasing.Json.Value
import AddressLeasing.Lease.Pool
import AddressLeasing.Lease.Record
import AddressLeasing.Log.Directive
import AddressLeasing.Log.Pattern
import AddressLeasing.Main
import AddressLeasing.Net.Endpoint
import AddressLeasing.Net.Ipv4
import AddressLeasing.Net.Ipv6
import AddressLeasing.Proofs.OptionRegion
import AddressLeasing.Proofs.PoolInvariant
import AddressLeasing.Server.Basic
import AddressLeasing.Server.Run
import AddressLeasing.Text.Duration
import AddressLeasing.Text.Hex
import AddressLeasing.Text.Letters
import AddressLeasing.Text.Printable
import AddressLeasing.Text.Quoted
import AddressLeasing.Text.Utf8
import AddressLeasing.Wire.Code
import AddressLeasing.Wire.Envelope
import AddressLeasing.Wire.HardwareAddress
import AddressLeasing.Wire.LeaseOption
import AddressLeasing.Wire.Message
import AddressLeasing.Wire.OptionList
import AddressLeasing.Wire.Word
import AddressLeasing.Proofs.ServerStep
import AddressLeasing.Proofs.LeaseHistory
import AddressLeasing.Proofs.MessageCodec
import AddressLeasing.Proofs.ClientScript
import AddressLeasing.Proofs.ServerReplies
import AddressLeasing.Proofs.LeaseNetwork
import AddressLeasing.Proofs.StageInvariant
import AddressLeasing.Proofs.ExclusiveAddresses
import AddressLeasing.Proofs.Reencoding
import AddressLeasing.Proofs.PoolChanges
import AddressLeasing.Proofs.ReplyCorrelation
import AddressLeasing.Proofs.LeaseCycle
import AddressLeasing.Proofs.CommitEffect
import AddressLeasing.Proofs.Renewal
import AddressLeasing.Proofs.ClientSteps
import AddressLeasing.Proofs.LeaseProvenance
import AddressLeasing.Proofs.ClientPhases
import AddressLeasing.Proofs.OfferPreference
import AddressLeasing.Proofs.ExpirySweep
import AddressLeasing.Proofs.OfferWaitBound
import AddressLeasing.Proofs.RetryBounds
import AddressLeasing.Proofs.ConfigPool
import AddressLeasing.Proofs.OptionGrammar
import AddressLeasing.Proofs.EnvelopeChecks
import AddressLeasing.Proofs.ConcurrentLeasing
import AddressLeasing.Proofs.AddressText
import AddressLeasing.Proofs.UniqueCodes
