import PlatformContracts.Lib.Exec
import PlatformContracts.Lib.FinMap
import PlatformContracts.Lib.Keyed
import PlatformContracts.Lib.Sys
import PlatformContracts.Testkit.Adapter
import PlatformContracts.Testkit.AdapterSys
import PlatformContracts.Testkit.AdapterEffect
import PlatformContracts.Testkit.AdapterInv
import PlatformContracts.Testkit.AdapterTerminal
import PlatformContracts.Testkit.AdapterHandles
import PlatformContracts.Testkit.AdapterShutdown
import PlatformContracts.Lib.Check
import PlatformContracts.Contracts.Basic
import PlatformContracts.Contracts.Publication
import PlatformContracts.Testkit.Publication
import PlatformContracts.Testkit.ReferencePublication
import PlatformContracts.Testkit.PublicationProtocol
import PlatformContracts.Testkit.PublicationExits
import PlatformContracts.Testkit.PublicationRuns
import PlatformContracts.Testkit.PublicationWriter
import PlatformContracts.Contracts.Evidence
import PlatformContracts.Contracts.Lifecycle
import PlatformContracts.Vertical.Model
import PlatformContracts.Vertical.Text
import PlatformContracts.Vertical.Manifest
import PlatformContracts.Vertical.Observation
import PlatformContracts.Vertical.Baseline
import PlatformContracts.Vertical.Rows
import PlatformContracts.Vertical.Lock
import PlatformContracts.Vertical.Candidate
import PlatformContracts.Vertical.Binding
import PlatformContracts.Vertical.Omissions
import PlatformContracts.Testkit.Supervisor
import PlatformContracts.Testkit.ShutdownOutcome
import PlatformContracts.Testkit.SupervisorSys
import PlatformContracts.Testkit.SupervisorEffect
import PlatformContracts.Testkit.SupervisorBooks
import PlatformContracts.Testkit.SupervisorInv
import PlatformContracts.Testkit.SupervisorShutdown
import PlatformContracts.Testkit.SupervisorOrder
import PlatformContracts.Testkit.SupervisorQuiesce
import PlatformContracts.Testkit.SupervisorDrain
import PlatformContracts.Testkit.SupervisorHandles
import PlatformContracts.Testkit.SupervisorReplay
import PlatformContracts.Testkit.SupervisorAgree
import PlatformContracts.Contracts.Privacy
import PlatformContracts.Contracts.Shutdown
import PlatformContracts.Contracts.Capability
import PlatformContracts.Lib.Codec
import PlatformContracts.Lib.Record
import PlatformContracts.Testkit.AdapterDrain
import PlatformContracts.Testkit.AdapterIdentities
import PlatformContracts.Vertical.Streaming
import PlatformContracts.Contracts.Wire
import PlatformContracts.Contracts.RoundTrip
import PlatformContracts.Lib.Regex
import PlatformContracts.Lib.Schema
import PlatformContracts.Contracts.Grammar
import PlatformContracts.Contracts.Schemas
import PlatformContracts.Contracts.Conformance
import PlatformContracts.Contracts.Refused
import PlatformContracts.Vertical.Grammar
import PlatformContracts.Vertical.Wire
import PlatformContracts.Vertical.Conformance
import PlatformContracts.Testkit.PublicationSuite
import PlatformContracts.Testkit.Progress
import PlatformContracts.Lib.Precede
import PlatformContracts.Vertical.Projection
import PlatformContracts.Testkit.Coverage
import PlatformContracts.Testkit.Barrier
import PlatformContracts.Testkit.BarrierPassage
import PlatformContracts.Vertical.Names
import PlatformContracts.Lib.Reorder
import PlatformContracts.Vertical.Reorder
import PlatformContracts.Lib.Lexical
import PlatformContracts.Vertical.Paths
import PlatformContracts.Lib.Greedy
import PlatformContracts.Testkit.FaultScript
import PlatformContracts.Testkit.Hierarchy
import PlatformContracts.Testkit.HierarchyRuns
import PlatformContracts.Testkit.BarrierRendezvous
import PlatformContracts.Lib.Race
import PlatformContracts.Testkit.LifecycleSuite
import PlatformContracts.Testkit.LifecycleFollows
import PlatformContracts.Testkit.LifecycleConformance
import PlatformContracts.Testkit.TransitionChain
import PlatformContracts.Testkit.ComposedSuites
import PlatformContracts.Testkit.ComposedConformance
import PlatformContracts.Lib.Reads
import PlatformContracts.Vertical.Codec
import PlatformContracts.Vertical.RoundTrip
import PlatformContracts.Vertical.Readable
import PlatformContracts.Lib.Client
import PlatformContracts.Lib.View
import PlatformContracts.Testkit.BridgeSuite
import PlatformContracts.Testkit.BridgeView
import PlatformContracts.Testkit.BridgeCalls
import PlatformContracts.Testkit.BridgeMethods
import PlatformContracts.Testkit.BridgeStable
import PlatformContracts.Testkit.BridgeConformance
