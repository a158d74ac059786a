import HakoPduRpc.Lib.Machine
import HakoPduRpc.Lib.Observer
import HakoPduRpc.Lib.KeyedList
import HakoPduRpc.Lib.OrdMap
import HakoPduRpc.Lib.SlotTable
import HakoPduRpc.Lib.Sections
import HakoPduRpc.Lib.Fleet
import HakoPduRpc.Lib.Duplex
import HakoPduRpc.Lib.Tickets
import HakoPduRpc.Lib.Handover
import HakoPduRpc.Pdu.Registry
import HakoPduRpc.Pdu.Outcome
import HakoPduRpc.Pdu.Layout
import HakoPduRpc.Pdu.Transmission
import HakoPduRpc.Action.Types
import HakoPduRpc.Action.Configuration
import HakoPduRpc.Action.Routing
import HakoPduRpc.Action.Wire
import HakoPduRpc.Action.ServerStateMachine
import HakoPduRpc.Action.ClientStateMachine
import HakoPduRpc.Action.ServerEndpoint
import HakoPduRpc.Action.ServicesServer
import HakoPduRpc.Action.ServerSteps
import HakoPduRpc.Action.ServerCorrespondence
import HakoPduRpc.Action.ServerCancelFlags
import HakoPduRpc.Action.ServerHistory
import HakoPduRpc.Action.ClientEndpoint
import HakoPduRpc.Action.ServicesClient
import HakoPduRpc.Action.ClientSteps
import HakoPduRpc.Action.ClientCorrespondence
import HakoPduRpc.Action.GoalLink
import HakoPduRpc.Action.System
import HakoPduRpc.Action.ActionLink
import HakoPduRpc.Action.LinkedRuns
import HakoPduRpc.Action.Agreement
import HakoPduRpc.Rpc.Types
import HakoPduRpc.Rpc.ServerEndpoint
import HakoPduRpc.Rpc.ServiceLayout
import HakoPduRpc.Rpc.ServerRequests
import HakoPduRpc.Rpc.DynamicClients
import HakoPduRpc.Rpc.ServicesServer
import HakoPduRpc.Rpc.ClientEndpoint
import HakoPduRpc.Rpc.TruncatedPackets
import HakoPduRpc.Rpc.ClientRequests
import HakoPduRpc.Rpc.SendFailures
import HakoPduRpc.Rpc.Protocol
import HakoPduRpc.Rpc.ClientIsolation
import HakoPduRpc.Rpc.MuxServer
import HakoPduRpc.Rpc.MuxRouting
import HakoPduRpc.Rpc.MuxCapacity
import HakoPduRpc.Rpc.ServicesClient
import HakoPduRpc.Rpc.ResponseRace
import HakoPduRpc.Rpc.CInterface
import HakoPduRpc.Rpc.CallAsync
import HakoPduRpc.Rpc.ClientReuse
import HakoPduRpc.Rpc.RequestIdentity
import HakoPduRpc.Action.TerminalCommit
import HakoPduRpc.Action.ClientHistory
import HakoPduRpc.Action.MuxServer
import HakoPduRpc.Action.ServerStanding
import HakoPduRpc.Action.MuxSteps
import HakoPduRpc.Action.MuxOwnership
import HakoPduRpc.Action.MuxRouting
import HakoPduRpc.Action.MuxDisconnect
import HakoPduRpc.Action.MuxSlots
import HakoPduRpc.Action.FinishedGoals
import HakoPduRpc.Action.OrphanedGoals
import HakoPduRpc.Action.SlotStores
import HakoPduRpc.Action.PacketRoundTrip
import HakoPduRpc.Action.PacketArithmetic
import HakoPduRpc.Action.ChannelNumbering
import HakoPduRpc.Action.FailedOperations
import HakoPduRpc.Action.GoalIsolation
import HakoPduRpc.Action.GoalTimeout
import HakoPduRpc.Action.ElapsedTime
import HakoPduRpc.Action.LinkedAgreement
import HakoPduRpc.Action.CInterface
import HakoPduRpc.Action.CFunctions
import HakoPduRpc.Action.CPrograms
import HakoPduRpc.Action.ClientPrograms
import HakoPduRpc.Action.ServerPrograms
import HakoPduRpc.Action.CAgreement
import HakoPduRpc.Config.Values
import HakoPduRpc.Config.Transport
import HakoPduRpc.Config.ActionManifest
import HakoPduRpc.Config.ActionLimits
import HakoPduRpc.Config.ActionAgreement
import HakoPduRpc.Config.ServiceManifest
import HakoPduRpc.Config.EndpointFiles
import HakoPduRpc.Config.ServiceCheck
import HakoPduRpc.Config.CheckedServices
import HakoPduRpc.Config.ServiceSetup
import HakoPduRpc.Config.ServiceAgreement
import HakoPduRpc.Config.ServerNodes
import HakoPduRpc.Config.GeneratedActions
import HakoPduRpc.Lib.Hub
import HakoPduRpc.Action.MuxConnections
import HakoPduRpc.Action.MuxClients
import HakoPduRpc.Lib.Progress
import HakoPduRpc.Lib.Transit
import HakoPduRpc.Action.EventualReports
import HakoPduRpc.Action.EventualGoals
import HakoPduRpc.Rpc.CallProgress
import HakoPduRpc.Lib.Star
import HakoPduRpc.Rpc.Crowd
import HakoPduRpc.Rpc.ServiceClients
