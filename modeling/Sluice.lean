import Sluice.CommandLine.Run
import Sluice.Config.File
import Sluice.Config.Overrides
import Sluice.Config.Validation
import Sluice.Connection.Course
import Sluice.Connection.Error
import Sluice.Destination.Resolver
import Sluice.Main
import Sluice.Proofs.GrowingText
import Sluice.Proofs.HeadReading
import Sluice.Proofs.Passage
import Sluice.Proofs.Records
import Sluice.Proofs.SocksConnect
import Sluice.Proofs.SocksReplies
import Sluice.Proofs.TunnelRequest
import Sluice.Proofs.TunnelResponse
import Sluice.Proxy.Dialer
import Sluice.Proxy.HttpTunnel
import Sluice.Proxy.Socks5
import Sluice.Rehearsal.Clients
import Sluice.Rehearsal.Service
import Sluice.Relay.Basic
import Sluice.Relay.Lending
import Sluice.Server.Broadcast
import Sluice.Server.Launch
import Sluice.Server.Signal
import Sluice.Server.Slots
import Sluice.Sniff.Stage
import Sluice.Stream.Inspection
import Sluice.Proofs.MessageReading
import Sluice.Proofs.SocksRequests
import Sluice.Proofs.ClientHellos
import Sluice.Proofs.ServerMoves
import Sluice.Proofs.SlotAccounts
import Sluice.Proofs.ForceClose
import Sluice.Proofs.HeadLimit
import Sluice.Proofs.NextHop
import Sluice.Proofs.LentBuffers
import Sluice.Proofs.ForcedRelays
import Sluice.Proofs.HalfCloses
import Sluice.Proofs.RecycledBuffers
import Sluice.Proofs.SlotCounters
import Sluice.Proofs.Inspections
import Sluice.Proofs.TunnelAnswers
import Sluice.Proofs.BoundedSniffing
import Sluice.Proofs.HiddenPasswords
import Sluice.Proofs.SignIns
import Sluice.Proofs.DestinationTexts
import Sluice.Proofs.Listeners
import Sluice.Proofs.WrittenSettings
