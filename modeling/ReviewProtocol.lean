import ReviewProtocol.Lib.Framing
import ReviewProtocol.Lib.Act
import ReviewProtocol.Wire
import ReviewProtocol.RequestCode
import ReviewProtocol.ServiceId
import ReviewProtocol.Agent.Handler
import ReviewProtocol.Agent.PackageReader
import ReviewProtocol.Agent.Progress
import ReviewProtocol.Agent.Dispatch
import ReviewProtocol.Agent.Plan
import ReviewProtocol.Agent.Install
import ReviewProtocol.Agent.Loops
import ReviewProtocol.Encoding
import ReviewProtocol.Agent.Alignment
import ReviewProtocol.Auth
import ReviewProtocol.Server.Handler
import ReviewProtocol.Server.Loops
import ReviewProtocol.Server.Gate
import ReviewProtocol.Classification
import ReviewProtocol.Server.Api
import ReviewProtocol.Server.Calls
import ReviewProtocol.Server.Stream
import ReviewProtocol.Agent.Passage
import ReviewProtocol.Agent.Cancelled
import ReviewProtocol.Truncation
import ReviewProtocol.AgentInfo
import ReviewProtocol.Releases
import ReviewProtocol.Lib.Duplex
import ReviewProtocol.Lib.Semver
import ReviewProtocol.Lib.SemverText
import ReviewProtocol.Handshake
import ReviewProtocol.AcceptedRange
import ReviewProtocol.Server.Install
import ReviewProtocol.Server.Methods
import ReviewProtocol.Agent.Pairing
import ReviewProtocol.Agent.Legacy
import ReviewProtocol.EndToEnd
import ReviewProtocol.Lockstep
import ReviewProtocol.Client.Api
import ReviewProtocol.Lib.Call
import ReviewProtocol.Agent.Accounting
import ReviewProtocol.Fidelity
import ReviewProtocol.Lifecycle
import ReviewProtocol.Client.Builder
import ReviewProtocol.Agent.Secrecy
import ReviewProtocol.Lib.Confluence
import ReviewProtocol.Schedule
import ReviewProtocol.Integrity
import ReviewProtocol.HalfDuplex
import ReviewProtocol.Mediation
import ReviewProtocol.Lib.Waiting
import ReviewProtocol.Waiting
import ReviewProtocol.Admission
import ReviewProtocol.Lib.Session
import ReviewProtocol.Server.Session
import ReviewProtocol.Encoding.Data
import ReviewProtocol.Encoding.Format
import ReviewProtocol.Lib.Variants
import ReviewProtocol.Encoding.Node
import ReviewProtocol.Lib.Rewording
import ReviewProtocol.Rewording
import ReviewProtocol.Client.Settings
import ReviewProtocol.Lib.Mirror
import ReviewProtocol.Server.Node
import ReviewProtocol.Lib.Transducer
import ReviewProtocol.Agent.Meaning
import ReviewProtocol.Agent.Unsupported
import ReviewProtocol.Skew
import ReviewProtocol.Lib.SemverLaws
import ReviewProtocol.ProtocolVersion
