import GatewayTunnel.ActivityTimer
import GatewayTunnel.Address
import GatewayTunnel.Address.IpLiteral
import GatewayTunnel.Audit
import GatewayTunnel.Backoff
import GatewayTunnel.Bytes
import GatewayTunnel.Bytes.Base64
import GatewayTunnel.Bytes.Der
import GatewayTunnel.Bytes.Wire
import GatewayTunnel.Command.Arguments
import GatewayTunnel.Command.Run
import GatewayTunnel.Config.Error
import GatewayTunnel.Config.Outbound
import GatewayTunnel.Config.Settings
import GatewayTunnel.Config.Value
import GatewayTunnel.Connection
import GatewayTunnel.Crypto.Aes
import GatewayTunnel.Crypto.Blowfish
import GatewayTunnel.Crypto.Ed25519
import GatewayTunnel.Crypto.Md5
import GatewayTunnel.Crypto.Pbkdf2
import GatewayTunnel.Crypto.Residue
import GatewayTunnel.Crypto.Sha256
import GatewayTunnel.Crypto.Sha512
import GatewayTunnel.Crypto.Weierstrass
import GatewayTunnel.Dialer
import GatewayTunnel.Duration
import GatewayTunnel.FileTree
import GatewayTunnel.Forwarding
import GatewayTunnel.Gateway
import GatewayTunnel.Handover
import GatewayTunnel.HostKey
import GatewayTunnel.Identity
import GatewayTunnel.IoError
import GatewayTunnel.Key.Armor
import GatewayTunnel.Key.Authorized
import GatewayTunnel.Key.Container
import GatewayTunnel.Key.Error
import GatewayTunnel.Key.Private
import GatewayTunnel.Key.Public
import GatewayTunnel.Listener
import GatewayTunnel.Logging.Filter
import GatewayTunnel.Logging.Record
import GatewayTunnel.Login
import GatewayTunnel.Main
import GatewayTunnel.Manager
import GatewayTunnel.Paths
import GatewayTunnel.Policy
import GatewayTunnel.Relay
import GatewayTunnel.Relay.Copy
import GatewayTunnel.Request
import GatewayTunnel.Sessions
import GatewayTunnel.Simulation.Ends
import GatewayTunnel.Simulation.Offline
import GatewayTunnel.Simulation.Scenario
import GatewayTunnel.Simulation.Script
import GatewayTunnel.Simulation.Server
import GatewayTunnel.Simulation.Session
import GatewayTunnel.Simulation.World
import GatewayTunnel.Text.Blank
import GatewayTunnel.Text.Numeral
import GatewayTunnel.Text.Printable
import GatewayTunnel.Text.Quoted
import GatewayTunnel.Text.Shown
import GatewayTunnel.Toml.Blank
import GatewayTunnel.Toml.Document
import GatewayTunnel.Toml.Scalar
import GatewayTunnel.Toml.Scan
import GatewayTunnel.Toml.Text
import GatewayTunnel.Toml.Tree
import GatewayTunnel.Tokens
import GatewayTunnel.Transport
import GatewayTunnel.Trail
import GatewayTunnel.Tunnel
import GatewayTunnel.TunnelError
import GatewayTunnel.Validation
import GatewayTunnel.Proofs.Manager.Transition
import GatewayTunnel.Proofs.Manager.Lock
import GatewayTunnel.Proofs.Manager.Call
import GatewayTunnel.Proofs.Manager.Ledger
import GatewayTunnel.Proofs.Manager.Ending
import GatewayTunnel.Proofs.Manager.Ownership
import GatewayTunnel.Proofs.Manager.Freshness
import GatewayTunnel.Proofs.Manager.Counting
import GatewayTunnel.Proofs.Manager.Calm
import GatewayTunnel.Proofs.Manager.Replacement
import GatewayTunnel.Proofs.Manager.Watching
import GatewayTunnel.Proofs.Key.Entry
import GatewayTunnel.Proofs.HostKey.Pinning
import GatewayTunnel.Proofs.Connection.Credentials
import GatewayTunnel.Proofs.Relay.Copying
import GatewayTunnel.Proofs.Relay.Transition
import GatewayTunnel.Proofs.Relay.Fidelity
import GatewayTunnel.Proofs.Timeline
import GatewayTunnel.Proofs.Timer.Checks
import GatewayTunnel.Proofs.Timer.Expiry
import GatewayTunnel.Proofs.Timer.Law
import GatewayTunnel.Proofs.Relay.Timing
import GatewayTunnel.Proofs.Relay.Silence
import GatewayTunnel.Proofs.Relay.Liveliness
import GatewayTunnel.Proofs.Relay.Outcome
import GatewayTunnel.Proofs.Manager.Acquiring
import GatewayTunnel.Proofs.Relay.Interruption
import GatewayTunnel.Proofs.Request.Transition
import GatewayTunnel.Proofs.Request.Pipeline
import GatewayTunnel.Proofs.Forwarding.Transition
import GatewayTunnel.Proofs.Manager.LastClose
import GatewayTunnel.Proofs.Tunnel.Transition
import GatewayTunnel.Proofs.Tunnel.Shutdown
import GatewayTunnel.Proofs.Bytes.Wire
import GatewayTunnel.Proofs.Key.Decoding
import GatewayTunnel.Proofs.Bytes.Base64
import GatewayTunnel.Proofs.HostKey.Reporting
import GatewayTunnel.Proofs.Tokens
import GatewayTunnel.Proofs.Handover.Transition
import GatewayTunnel.Proofs.Handover.Delivery
import GatewayTunnel.Proofs.Relay.Stopping
import GatewayTunnel.Proofs.Transport.Transition
import GatewayTunnel.Proofs.Trail.Records
import GatewayTunnel.Proofs.Trail.Transition
import GatewayTunnel.Proofs.Trail.Paired
import GatewayTunnel.Proofs.Secrecy.Alike
import GatewayTunnel.Proofs.Secrecy.Views
import GatewayTunnel.Proofs.Sessions.Owners
import GatewayTunnel.Proofs.Sessions.Transition
import GatewayTunnel.Proofs.Sessions.Cancelling
import GatewayTunnel.Proofs.Sessions.Following
import GatewayTunnel.Proofs.Sessions.Apart
import GatewayTunnel.Proofs.Text.Pieces
import GatewayTunnel.Proofs.Validation.Host
import GatewayTunnel.Proofs.Validation.Checks
import GatewayTunnel.Proofs.Address.Reading
import GatewayTunnel.Proofs.HostKey.Comment
import GatewayTunnel.Proofs.Identity.Resolution
import GatewayTunnel.Proofs.Connection.Choice
import GatewayTunnel.Proofs.Policy.Lookup
import GatewayTunnel.Proofs.Config.Building
import GatewayTunnel.Proofs.Backoff.Retrying
import GatewayTunnel.Proofs.Address.RoundTrip
import GatewayTunnel.Proofs.Manager.Budget
import GatewayTunnel.Proofs.Manager.Restarting
import GatewayTunnel.Proofs.Text.Numerals
import GatewayTunnel.Proofs.Address.Grammar
import GatewayTunnel.Proofs.Address.Literals
import GatewayTunnel.Proofs.Validation.Grammar
import GatewayTunnel.Proofs.Bytes.Order
import GatewayTunnel.Proofs.Policy.Levels
import GatewayTunnel.Proofs.Config.Verdict
import GatewayTunnel.Proofs.Policy.Overriding
import GatewayTunnel.Closing
import GatewayTunnel.Proofs.Address.Naming
import GatewayTunnel.Proofs.Closing.Transition
import GatewayTunnel.Proofs.Config.Credentials
import GatewayTunnel.Proofs.Closing.Once
import GatewayTunnel.Proofs.FileTree.Growth
import GatewayTunnel.Proofs.Paths.Permissions
import GatewayTunnel.Backoff.Words
import GatewayTunnel.Proofs.Backoff.Delay
import GatewayTunnel.Proofs.Key.Decoration
