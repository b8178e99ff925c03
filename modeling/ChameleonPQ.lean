import ChameleonPQ.Session.ConcurrentDecrypt
import ChameleonPQ.Session.RoundTrip
import ChameleonPQ.Library.Runs
import ChameleonPQ.Library.TaskPool
import ChameleonPQ.Session.SendSide
import ChameleonPQ.Crypto.Transparent
import ChameleonPQ.Crypto.Authenticator
import ChameleonPQ.Crypto.Transcript
import ChameleonPQ.Handshake.Machine
import ChameleonPQ.Handshake.Honest
import ChameleonPQ.Handshake.Agreement
import ChameleonPQ.Tunnel.Pipeline
import ChameleonPQ.Tunnel.Inbound
import ChameleonPQ.Library.Chunks
import ChameleonPQ.Transport.Reassembler
import ChameleonPQ.Transport.Datagrams
import ChameleonPQ.Net.Drivers
import ChameleonPQ.Net.Network
import ChameleonPQ.Net.InitialHandshake
import ChameleonPQ.Net.DriverRuns
import ChameleonPQ.Net.CookieGate
import ChameleonPQ.Session.Authenticity
import ChameleonPQ.Config
import ChameleonPQ.Session.Engine
import ChameleonPQ.Tunnel.Outbound
import ChameleonPQ.Tunnel.Noninterference
import ChameleonPQ.Tunnel.Conservation
import ChameleonPQ.Tunnel.Waiting
import ChameleonPQ.Tunnel.Rekey
import ChameleonPQ.Tunnel.Node
import ChameleonPQ.Tunnel.Handover
import ChameleonPQ.Tunnel.DecryptJobs
import ChameleonPQ.Tunnel.Endpoint
import ChameleonPQ.Transport.Hostile
import ChameleonPQ.Transport.Interleaving
import ChameleonPQ.Transport.Envelope
import ChameleonPQ.Library.Panics
import ChameleonPQ.Transport.Parsers
import ChameleonPQ.Tunnel.RekeyState
import ChameleonPQ.Tunnel.PendingRekey
import ChameleonPQ.Tunnel.Keepalive
import ChameleonPQ.Client.Routes
import ChameleonPQ.Client.KillSwitch
import ChameleonPQ.Client.TunOwnership
import ChameleonPQ.Tunnel.Offload
import ChameleonPQ.Tunnel.CoverBudget
import ChameleonPQ.Tunnel.SequentialSender
import ChameleonPQ.Session.ManagerSteps
import ChameleonPQ.Session.RekeyClaims
import ChameleonPQ.Tunnel.RekeyClaim
import ChameleonPQ.Session.GracePeriod
import ChameleonPQ.Session.InstallRace
import ChameleonPQ.Library.Linearization
import ChameleonPQ.Session.AtomicOpens
import ChameleonPQ.Tunnel.SlotSizes
import ChameleonPQ.Tunnel.RekeyNoise
import ChameleonPQ.Crypto.HybridAuth
import ChameleonPQ.Library.IpText
import ChameleonPQ.Session.Demux
import ChameleonPQ.Session.Reservations
import ChameleonPQ.Tunnel.ProfileFollow
import ChameleonPQ.Library.Nftables
import ChameleonPQ.Client.Ruleset
import ChameleonPQ.Client.Resolver
import ChameleonPQ.Client.DnsRefresher
import ChameleonPQ.Client.Start
import ChameleonPQ.Tunnel.Timers
import ChameleonPQ.Library.Provision
import ChameleonPQ.Server.InitPair
import ChameleonPQ.Server.Serving
import ChameleonPQ.Server.Setup
import ChameleonPQ.Server.Convergence
import ChameleonPQ.Library.Toml
import ChameleonPQ.Server.PairText
import ChameleonPQ.Server.PairReader
import ChameleonPQ.Server.WritePair
import ChameleonPQ.Server.MatchedPair
import ChameleonPQ.Tunnel.SecureChannel
import ChameleonPQ.Session.TwoEnds
import ChameleonPQ.Net.Amplification
import ChameleonPQ.Tunnel.RekeyCompletes
import ChameleonPQ.Server.PairConnects
import ChameleonPQ.Client.Teardown
import ChameleonPQ.Session.Channel
import ChameleonPQ.Tunnel.Control
import ChameleonPQ.Session.Stream
import ChameleonPQ.Client.NativeBridge
