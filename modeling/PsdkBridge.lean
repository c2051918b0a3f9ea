import PsdkBridge.Lib.CText
import PsdkBridge.Lib.Numerals
import PsdkBridge.Lib.Ieee
import PsdkBridge.Lib.Rounding
import PsdkBridge.Lib.JsonText
import PsdkBridge.Lib.Paths
import PsdkBridge.Lib.JsonReads
import PsdkBridge.Lib.JsonLocal
import PsdkBridge.Lib.JsonClosed
import PsdkBridge.Lib.Fixed
import PsdkBridge.Lib.JsonWrites
import PsdkBridge.Lib.Utf8
import PsdkBridge.Lib.Registers
import PsdkBridge.Lib.Calls
import PsdkBridge.Lib.Typestate
import PsdkBridge.Lib.Buffers
import PsdkBridge.Lib.Framing
import PsdkBridge.DroneTypes
import PsdkBridge.Platform
import PsdkBridge.Rpc
import PsdkBridge.Handler
import PsdkBridge.Dispatch
import PsdkBridge.StubCtrl
import PsdkBridge.Requests
import PsdkBridge.MethodNames
import PsdkBridge.Replies
import PsdkBridge.NullStrings
import PsdkBridge.ParamGuards
import PsdkBridge.NumberGuards
import PsdkBridge.ReplyBuffer
import PsdkBridge.ReplyText
import PsdkBridge.ReplyDecoding
import PsdkBridge.FloatReplies
import PsdkBridge.Datagrams
import PsdkBridge.DatagramRuns
import PsdkBridge.StubModes
import PsdkBridge.Subscriptions
import PsdkBridge.BatteryReport
import PsdkBridge.BatteryAge
import PsdkBridge.RealCtrl
import PsdkBridge.RealCalls
import PsdkBridge.StubRegisters
import PsdkBridge.ObstacleAvoidance
import PsdkBridge.KmzUpload
import PsdkBridge.RthAltitude
import PsdkBridge.WaypointModule
import PsdkBridge.Daemon
import PsdkBridge.CommandLine
import PsdkBridge.Uptime
import PsdkBridge.Polls
import PsdkBridge.Commands
import PsdkBridge.Controls
import PsdkBridge.Telemetry
import PsdkBridge.TcpServer
import PsdkBridge.TcpReceive
import PsdkBridge.TcpSend
import PsdkBridge.TcpClients
import PsdkBridge.TcpIsolation
import PsdkBridge.TcpLoss
import PsdkBridge.TcpAdmission
import PsdkBridge.TcpMoves
import PsdkBridge.TcpReentry
import PsdkBridge.TcpBounds
import PsdkBridge.TcpLifetime
import PsdkBridge.DaemonOrder
import PsdkBridge.UploadOrder
import PsdkBridge.FfsInit
