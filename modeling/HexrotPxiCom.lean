import HexrotPxiCom.CircularBuffer
import HexrotPxiCom.LogTlm.Order
import HexrotPxiCom.LogTlm.Shutdown
import HexrotPxiCom.LogTlm.Rearm
import HexrotPxiCom.LogTlm.Sequential
import HexrotPxiCom.Lib.MsgQueue
import HexrotPxiCom.Lib.Segments
import HexrotPxiCom.Interface.Server
import HexrotPxiCom.Interface.ServerSteps
import HexrotPxiCom.Interface.Framing
import HexrotPxiCom.Interface.Routing
import HexrotPxiCom.Interface.Connections
import HexrotPxiCom.Interface.ServerThreads
import HexrotPxiCom.Interface.Sessions
import HexrotPxiCom.Interface.Outgoing
import HexrotPxiCom.Interface.Rejections
import HexrotPxiCom.Interface.Descriptors
import HexrotPxiCom.LogTlm.FileExclusion
import HexrotPxiCom.Lib.Handshake
import HexrotPxiCom.Handshakes
import HexrotPxiCom.Interface.Resources
import HexrotPxiCom.Interface.Released
import HexrotPxiCom.SharedLock
import HexrotPxiCom.BlocksApart
import HexrotPxiCom.Independence
import HexrotPxiCom.IndependentCalls
import HexrotPxiCom.ConfigPxi
import HexrotPxiCom.LogTlm.FlushResult
import HexrotPxiCom.Drives.SdoDownload
import HexrotPxiCom.Drives.FaultName
import HexrotPxiCom.Utility
import HexrotPxiCom.Interface.TcpServer
import HexrotPxiCom.SlotAccess
import HexrotPxiCom.Interface.StatusBytes
import HexrotPxiCom.SettingOwnership
import HexrotPxiCom.LogTlm.Creation
import HexrotPxiCom.LogTlm.Lifecycle
import HexrotPxiCom.Interface.Streams
import HexrotPxiCom.TimeBudget
import HexrotPxiCom.JoinStr
import HexrotPxiCom.LogTlm.LoopDelay
import HexrotPxiCom.Drives.Ds402
import HexrotPxiCom.Drives.DriveControl
import HexrotPxiCom.Drives.SdoUpload
import HexrotPxiCom.Drives.FaultCodes
import HexrotPxiCom.Interface.Pipeline
import HexrotPxiCom.Interface.QueueNames
import HexrotPxiCom.LogTlm.FlushOverrun
import HexrotPxiCom.LogTlm.ArchivedCalls
import HexrotPxiCom.Interface.Delivery
