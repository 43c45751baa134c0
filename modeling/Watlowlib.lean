import Watlowlib.ArrowFixtures
import Watlowlib.BatchSnapshots
import Watlowlib.Diagnostics
import Watlowlib.DiscoveryCompleteness
import Watlowlib.ErrorPolicies
import Watlowlib.F4pSessions
import Watlowlib.FrameProtection
import Watlowlib.FrameTap
import Watlowlib.FramingSearch
import Watlowlib.InstanceDefaults
import Watlowlib.LabelCache
import Watlowlib.LastError
import Watlowlib.LostConnections
import Watlowlib.ManagerCancellation
import Watlowlib.ManagerClose
import Watlowlib.ModbusAddresses
import Watlowlib.ModbusProbe
import Watlowlib.ModbusWrites
import Watlowlib.NameResolution
import Watlowlib.ParquetSinks
import Watlowlib.PidSnapshot
import Watlowlib.PostgresSinks
import Watlowlib.ProtocolTransparency
import Watlowlib.RangeParsing
import Watlowlib.ReadLedger
import Watlowlib.RecordedFiles
import Watlowlib.RecorderReconnect
import Watlowlib.RecorderSchedule
import Watlowlib.SourceFiltering
import Watlowlib.SyncManagers
import Watlowlib.TickPercentiles
import Watlowlib.TypedEncoding
import Watlowlib.ValuePrefixes
