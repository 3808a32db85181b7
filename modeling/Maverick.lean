import Maverick.Core.ReplayHistory
import Maverick.Core.Config
import Maverick.Core.Transcript
import Maverick.Core.Hello
import Maverick.Server.Authenticate
import Maverick.Core.Frame
import Maverick.Lib.System
import Maverick.Server.Sessions
import Maverick.Core.Egress
import Maverick.Server.Connect
import Maverick.Server.Target
import Maverick.Client.Handshake
import Maverick.Agreement
import Maverick.Client.Pool
import Maverick.Client.PoolRuns
import Maverick.Client.PoolAccounting
import Maverick.Lib.Async
import Maverick.Sdk.PlatformHelper
import Maverick.Sdk.ReferenceClient
import Maverick.Sdk.FailSafety
import Maverick.Core.Padding
import Maverick.Server.Relay
import Maverick.Server.RelayIntegrity
import Maverick.Server.RateLimiter
import Maverick.Server.LatencyMetric
import Maverick.Lib.Slots
import Maverick.Tun.Engine
import Maverick.Tun.Workers
import Maverick.Tun.Runtime
import Maverick.Tun.Runs
import Maverick.Tun.Placement
import Maverick.Tun.Isolation
import Maverick.Tun.Changes
import Maverick.Tun.Endpoints
import Maverick.Lib.Total
import Maverick.Tun.Bounds
import Maverick.Tun.Sizes
import Maverick.Tun.Budget
import Maverick.Completeness
import Maverick.Tun.Flows
import Maverick.Tun.Uploads
import Maverick.Quiche.Driver
import Maverick.Quiche.Delivery
import Maverick.Quiche.Listener
import Maverick.Core.HelloCodec
import Maverick.Server.ConnectionLimits
import Maverick.Lib.Duplex
import Maverick.Server.H3Relay
import Maverick.Server.WsRelay
import Maverick.Client.Shaping
import Maverick.Client.Relay
import Maverick.Client.HalfClose
import Maverick.Client.ConnectorStream
import Maverick.Tun.Draining
import Maverick.Tun.Ownership
import Maverick.Tun.Targets
import Maverick.Tun.Backing
import Maverick.Tun.Replies
import Maverick.Tun.Lifecycle
import Maverick.Lib.Views
import Maverick.Core.Payload
import Maverick.Client.Socks5
import Maverick.Lib.Text
import Maverick.Client.HttpConnect
import Maverick.Client.FinishResponse
import Maverick.Server.AuthGate
import Maverick.Server.ConnectRace
import Maverick.Server.Credentials
import Maverick.Server.TcpFlow
import Maverick.Server.UdpFlow
import Maverick.Client.UdpAssociate
import Maverick.Client.DnsRelay
import Maverick.Cli.ProfileUri
import Maverick.Core.Batching
import Maverick.Core.Noise
import Maverick.Core.NoisePrologue
import Maverick.Core.TunPacket
import Maverick.Core.TunPlan
import Maverick.Lib.FormUrlencoded
import Maverick.Sdk.StoredProfile
import Maverick.Server.Fallback
import Maverick.Tun.Ledger
