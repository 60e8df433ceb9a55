import DeviceDiscovery.Parser.Agreement
import DeviceDiscovery.Threading.Contract
import DeviceDiscovery.Scanner.SweepRefinement
import DeviceDiscovery.Scanner.HostEnumeration
import DeviceDiscovery.Network.LinkLayerHosts
import DeviceDiscovery.Ssh.ClientContract
import DeviceDiscovery.Main.PasswordGate
import DeviceDiscovery.Main.Noninterference
import DeviceDiscovery.Main.Truncation
import DeviceDiscovery.Main.ProbedAddresses
import DeviceDiscovery.Main.RefusalAdvice
import DeviceDiscovery.Parser.Blocks
import DeviceDiscovery.Output.JsonRoundTrip
import DeviceDiscovery.Main.MockMode
import DeviceDiscovery.Main.InterfaceCount
import DeviceDiscovery.Main.TerminalSafety
import DeviceDiscovery.Main.TimeoutOptions
import DeviceDiscovery.Threading.ConcurrentShutdown
import DeviceDiscovery.Parser.LineEndings
import DeviceDiscovery.Parser.EntryShape
import DeviceDiscovery.Parser.Aliases
import DeviceDiscovery.Network.BroadcastRows
import DeviceDiscovery.Output.JsonEncoding
import DeviceDiscovery.Scanner.SweepBounds
import DeviceDiscovery.Scanner.SocketLedger
import DeviceDiscovery.Scanner.BannerStream
import DeviceDiscovery.Scanner.ServerIdentification
import DeviceDiscovery.Network.TruncatedPackets
import DeviceDiscovery.Main.FailureCodes
import DeviceDiscovery.Main.Discovery
import DeviceDiscovery.Scanner.ConcurrentSockets
import DeviceDiscovery.Main.RunEnds
import DeviceDiscovery.Main.Presentation
import DeviceDiscovery.Main.DeviceTraffic
import DeviceDiscovery.Main.ReportReading
import DeviceDiscovery.Main.Fragmentation
import DeviceDiscovery.Main.InterfaceChoice
import DeviceDiscovery.Parser.Robustness
import DeviceDiscovery.Main.Replay
import DeviceDiscovery.Main.RunResources
