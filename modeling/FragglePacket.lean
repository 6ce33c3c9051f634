import FragglePacket.Cli.KitchenSink
import FragglePacket.Desktop.Bookkeeping
import FragglePacket.Diagnostics.Ranking
import FragglePacket.Diagnostics.UnifiedReport
import FragglePacket.Framework.Metrics
import FragglePacket.Fuzzing.Campaign
import FragglePacket.Fuzzing.FragmentTermination
import FragglePacket.Fuzzing.LayerLoss
import FragglePacket.Fuzzing.LengthFields
import FragglePacket.Fuzzing.PathMtu
import FragglePacket.Fuzzing.ReplayTransport
import FragglePacket.Fuzzing.VlanFraming
import FragglePacket.Hash.SineTable
import FragglePacket.Load.CounterDeltas
import FragglePacket.Load.CounterEvidence
import FragglePacket.Load.IndependentRates
import FragglePacket.Load.MulticlientFairness
import FragglePacket.Load.ProcessModel
import FragglePacket.Load.RadioDiagnostic
import FragglePacket.Load.RadioIndependence
import FragglePacket.Load.RampBudget
import FragglePacket.NetworkTests.AuthPortal
import FragglePacket.NetworkTests.BurstReordering
import FragglePacket.NetworkTests.Capture
import FragglePacket.NetworkTests.CircuitDigest
import FragglePacket.NetworkTests.CircuitVerdicts
import FragglePacket.NetworkTests.ClockGuard
import FragglePacket.NetworkTests.CohortStrata
import FragglePacket.NetworkTests.CounterLiveness
import FragglePacket.NetworkTests.CryptoReference
import FragglePacket.NetworkTests.DhcpOptions
import FragglePacket.NetworkTests.DigAnswers
import FragglePacket.NetworkTests.EcmpSplit
import FragglePacket.NetworkTests.EndpointRegistry
import FragglePacket.NetworkTests.FleetBastion
import FragglePacket.NetworkTests.FlowDscpMatrix
import FragglePacket.NetworkTests.IperfHollow
import FragglePacket.NetworkTests.Ipv6Validation
import FragglePacket.NetworkTests.KneeReport
import FragglePacket.NetworkTests.KneeRounding
import FragglePacket.NetworkTests.ListenerAdmission
import FragglePacket.NetworkTests.MediaQuality
import FragglePacket.NetworkTests.MssCluster
import FragglePacket.NetworkTests.MssPairing
import FragglePacket.NetworkTests.MulticastIsolation
import FragglePacket.NetworkTests.NatCapacity
import FragglePacket.NetworkTests.PathStability
import FragglePacket.NetworkTests.PcapAnomalies
import FragglePacket.NetworkTests.PcapNg
import FragglePacket.NetworkTests.PcapTallies
import FragglePacket.NetworkTests.PingSummary
import FragglePacket.NetworkTests.PolicyProbes
import FragglePacket.NetworkTests.ProtocolComparison
import FragglePacket.NetworkTests.ReferenceEndpoint
import FragglePacket.NetworkTests.RfSurvey
import FragglePacket.NetworkTests.Scenario
import FragglePacket.NetworkTests.SecondNetwork
import FragglePacket.NetworkTests.SessionOutage
import FragglePacket.NetworkTests.SizeRateMatrix
import FragglePacket.NetworkTests.ThroughputTuner
import FragglePacket.NetworkTests.TunnelMss
import FragglePacket.NetworkTests.TurnRejection
import FragglePacket.NetworkTests.TurnRequest
import FragglePacket.NetworkTests.UploadSweep
import FragglePacket.NetworkTests.WiredEdge
import FragglePacket.NocMetrics.AnswerState
import FragglePacket.NocMetrics.WindowAlgebra
import FragglePacket.Probe.PmtuEvidence
import FragglePacket.Redact.Idempotence
import FragglePacket.Redact.Ipv4Leak
import FragglePacket.Redact.MacLeak
import FragglePacket.Redact.SectionAllowlist
import FragglePacket.Tui.CommandPanel
import FragglePacket.Tui.TargetTest
