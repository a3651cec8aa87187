import Ipbench.Foundation.Machine
import Ipbench.Foundation.Ring
import Ipbench.Foundation.Word
import Ipbench.Foundation.ByteOrder
import Ipbench.Foundation.Framing
import Ipbench.Latency.PacketList
import Ipbench.Latency.ReplyMatching
import Ipbench.Latency.Measure
import Ipbench.Latency.Ip
import Ipbench.Latency.Arguments
import Ipbench.Latency.Bookkeeping
import Ipbench.Latency.TcpSession
import Ipbench.Daemon.Session
import Ipbench.Daemon.Steps
import Ipbench.Daemon.Exclusion
import Ipbench.Daemon.Release
import Ipbench.Daemon.Abort
import Ipbench.Daemon.Lifecycle
import Ipbench.Daemon.StopOrder
import Ipbench.Daemon.Target
import Ipbench.Foundation.PyBytes
import Ipbench.Controller.Unmarshall
import Ipbench.Foundation.WordMemory
import Ipbench.Latency.Marshalling
import Ipbench.Latency.Output
import Ipbench.Foundation.SlotTable
import Ipbench.Nfs.CallbackList
import Ipbench.Nfs.CallbackMatching
import Ipbench.Nfs.Rpc
import Ipbench.Nfs.Delivery
import Ipbench.Nfs.Calls
import Ipbench.Nfs.ReplyStatus
import Ipbench.LatencyCheck.Marshalling
import Ipbench.Nfs.Marshalling
import Ipbench.Controller.RoundTrip
import Ipbench.LatencyCheck.BadPackets
import Ipbench.CpuTarget.Cooldown
import Ipbench.Controller.Config
import Ipbench.Wrapper.Output
import Ipbench.Controller.Precedence
import Ipbench.Controller.TargetList
import Ipbench.Controller.TargetOutput
import Ipbench.Daemon.StatusLines
import Ipbench.Latency.DropAccounting
import Ipbench.Latency.ClosedPeer
import Ipbench.Latency.Rates
import Ipbench.Controller.ResultLoop
import Ipbench.Controller.SetupLine
import Ipbench.Controller.Cleanup
import Ipbench.Foundation.Attempt
import Ipbench.Latency.LengthCheck
import Ipbench.Latency.Dumps
import Ipbench.Latency.StatisticCalls
import Ipbench.Latency.ValidFlags
import Ipbench.Nfs.Datagrams
import Ipbench.Nfs.Wire
import Ipbench.Nfs.XdrRoundTrip
import Ipbench.Nfs.Lookup
import Ipbench.Nfs.ReplyHeader
import Ipbench.Nfs.ExportList
import Ipbench.Nfs.PathLookup
import Ipbench.Nfs.Opening
import Ipbench.Nfs.Sampling
import Ipbench.Nfs.Averages
import Ipbench.Nfs.Output
import Ipbench.Nfs.Aggregation
import Ipbench.CpuTarget.BufferBounds
import Ipbench.CpuTarget.Intervals
import Ipbench.CpuTarget.CpuFigures
import Ipbench.Lib.Splitting
import Ipbench.Lib.TokenLoop
import Ipbench.Lib.TokenBuffers
import Ipbench.Latency.MacAddress
import Ipbench.Controller.PluginHistory
import Ipbench.Daemon.LoadCommand
import Ipbench.Daemon.TestStatus
import Ipbench.Controller.StatusRoundTrip
import Ipbench.Foundation.PairReplacement
import Ipbench.Nfs.HostName
import Ipbench.Discard.Arguments
import Ipbench.Discard.ArgumentList
import Ipbench.Controller.Dialogue
import Ipbench.Controller.CommandOrder
import Ipbench.Controller.TestRun
import Ipbench.Controller.WholeRun
import Ipbench.Foundation.Transfer
import Ipbench.Tbench.Exchange
import Ipbench.Foundation.Substitution
import Ipbench.Tbench.StringSub
import Ipbench.Foundation.Words
import Ipbench.Tbench.LoadFile
import Ipbench.Tbench.Start
import Ipbench.Echo.Frame
import Ipbench.Echo.Stream
import Ipbench.Nfs.RequestCache
import Ipbench.Nfs.RequestLedger
import Ipbench.Nfs.OpenedClient
import Ipbench.Nfs.Directory
import Ipbench.Nfs.CallbackReturns
import Ipbench.Foundation.Program
import Ipbench.Nfsstone.Child
import Ipbench.Nfsstone.Run
import Ipbench.Nfsstone.Tree
