import Surveillance.Lib.Machine
import Surveillance.Lib.Slot
import Surveillance.Lib.Json
import Surveillance.Lib.Framing
import Surveillance.DeviceHub.State
import Surveillance.DeviceHub.Turn
import Surveillance.DeviceHub.Handlers
import Surveillance.DeviceHub.Lingering
import Surveillance.DeviceHub.Claim
import Surveillance.DeviceHub.IceSession
import Surveillance.DeviceHub.Presence
import Surveillance.DeviceHub.OneDevice
import Surveillance.DeviceHub.Session
import Surveillance.Stream.Wire
import Surveillance.Stream.Delivery
import Surveillance.Backend.Hub
import Surveillance.Backend.ViewerSlot
import Surveillance.Backend.ViewerGone
import Surveillance.DeviceHub.Liveness
import Surveillance.DeviceHub.Endings
import Surveillance.DeviceHub.BadInput
import Surveillance.DeviceHub.IdleKills
import Surveillance.Firmware.PingDue
import Surveillance.DeviceHub.Keepalive
import Surveillance.Backend.OneConnection
import Surveillance.Firmware.Config
import Surveillance.Firmware.Consumers
import Surveillance.Firmware.Portal
import Surveillance.Firmware.PortalForm
import Surveillance.Firmware.PeerTask
import Surveillance.Firmware.Dial
import Surveillance.Firmware.Fallback
import Surveillance.Firmware.IceServers
import Surveillance.Firmware.LanStream
import Surveillance.Lib.Cookie
import Surveillance.Lib.Unicode
import Surveillance.Backend.SignalJson
import Surveillance.Backend.TurnConfig
import Surveillance.Backend.Parity
import Surveillance.Lib.ScriptData
import Surveillance.Lib.Markup
import Surveillance.Lib.JsLiteral
import Surveillance.Worker.Fetch
import Surveillance.Worker.Gate
import Surveillance.Worker.Login
import Surveillance.Lib.UrlReference
import Surveillance.Worker.LoginPage
import Surveillance.Worker.Redirect
import Surveillance.Firmware.CJsonRead
import Surveillance.DeviceHub.MintedTurn
import Surveillance.Worker.Admission
import Surveillance.Backend.Registry
import Surveillance.Backend.SideBySide
import Surveillance.Firmware.Candidates
import Surveillance.Firmware.UrlDecode
import Surveillance.Firmware.Ota
import Surveillance.Firmware.Led
import Surveillance.Firmware.LedMode
import Surveillance.Firmware.SignalingData
import Surveillance.Page.View
import Surveillance.Page.OneSocket
import Surveillance.Page.Pairing
import Surveillance.Page.Frames
import Surveillance.Page.Watching
import Surveillance.DeviceHub.Fleet
import Surveillance.Lib.Ledger
import Surveillance.Firmware.StreamInit
import Surveillance.Firmware.Boot
import Surveillance.Lib.JsonText
import Surveillance.Firmware.PeerMsg
import Surveillance.Page.Signaling
import Surveillance.Stream.FramePool
import Surveillance.Stream.LanServer
import Surveillance.Lib.HttpHead
import Surveillance.Firmware.DeviceId
import Surveillance.Worker.Camera
import Surveillance.Page.SessionText
import Surveillance.Lib.UriComponent
import Surveillance.Worker.Watch
import Surveillance.Worker.Site
