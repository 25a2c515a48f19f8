import Crabnet.MachineWord
import Crabnet.HashTable
import Crabnet.Fallible
import Crabnet.SessionTypes
import Crabnet.PendingManager
import Crabnet.ServerPolicy
import Crabnet.ServerRegistry
import Crabnet.ServerOutcomes
import Crabnet.ServerRuns
import Crabnet.ServerTrail
import Crabnet.CandidateTiming
import Crabnet.SingleSession
import Crabnet.HistoryWindow
import Crabnet.ReplayHistory
import Crabnet.DataFrame
import Crabnet.WireHeader
import Crabnet.DataFrameExact
import Crabnet.SnowBoundary
import Crabnet.DataSession
import Crabnet.SessionBudget
import Crabnet.DataRuntime
import Crabnet.DataPipeline
import Crabnet.DataDelivery
import Crabnet.DataInterference
import Crabnet.CryptoBoundary
import Crabnet.ClientPolicy
import Crabnet.HandshakeTypes
import Crabnet.ServerCoordinator
import Crabnet.ClientCoordinator
import Crabnet.NoiseProfile
import Crabnet.NoiseServer
import Crabnet.NoiseClient
import Crabnet.CoordinatorStability
import Crabnet.NoiseServerOutcomes
import Crabnet.ServerCoupling
import Crabnet.ServerCorrespondence
import Crabnet.CandidateIsolation
import Crabnet.HandshakeCodec
import Crabnet.HandshakeExact
import Crabnet.PlainFrame
import Crabnet.HandshakeAdapter
import Crabnet.FrameExchange
import Crabnet.ServerRemoteInput
import Crabnet.ServerLedger
import Crabnet.ClientLedger
import Crabnet.ClientSending
import Crabnet.AdapterSimulation
import Crabnet.NoiseRuntime
import Crabnet.SessionHandOff
import Crabnet.NonceUse
import Crabnet.HandshakeAgreement
import Crabnet.Custody
import Crabnet.NetworkTypes
import Crabnet.Routing
import Crabnet.RouteOwnership
import Crabnet.LegacyServer
import Crabnet.ClientPhases
import Crabnet.PrecheckAgreement
import Crabnet.CommitAtomicity
import Crabnet.ShutdownAccounting
import Crabnet.RuntimeConfig
import Crabnet.AcceptedConfig
import Crabnet.DuplicateHello
import Crabnet.ClientRemoteInput
import Crabnet.JsonValue
import Crabnet.LinuxRoutes
import Crabnet.ServerNat
import Crabnet.RouteTable
import Crabnet.HostKernel
import Crabnet.Reversal
import Crabnet.ManagerReversal
import Crabnet.KernelRoutes
import Crabnet.KernelNat
import Crabnet.ServerNetworking
import Crabnet.ControlRecords
import Crabnet.KeyText
import Crabnet.LegacyForwarding
import Crabnet.Fingerprint
import Crabnet.NatRendering
import Crabnet.FamilyRoutes
import Crabnet.TunnelCapture
import Crabnet.LoopTurns
import Crabnet.LoopAccounting
import Crabnet.LosslessDelivery
import Crabnet.HandshakeCompletion
import Crabnet.SessionOpening
import Crabnet.ServerRecovery
import Crabnet.HandshakeUndisturbed
import Crabnet.ClientNetworking
import Crabnet.Firewall
import Crabnet.ForwardPath
import Crabnet.NoiseEndpoint
import Crabnet.ModeSeparation
import Crabnet.NoiseBinding
import Crabnet.TunnelLife
import Crabnet.TunnelIntegrity
