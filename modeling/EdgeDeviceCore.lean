import EdgeDeviceCore.Elog.Delivery
import EdgeDeviceCore.Notifications.MqttReport
import EdgeDeviceCore.Notifications.BlobReport
import EdgeDeviceCore.Notifications.Concurrency
import EdgeDeviceCore.Notifications.Legibility
import EdgeDeviceCore.Notifications.Restarts
import EdgeDeviceCore.Notifications.LedStatus
import EdgeDeviceCore.Agent.Cleanup
import EdgeDeviceCore.Agent.Registration
import EdgeDeviceCore.Agent.Cycles
import EdgeDeviceCore.Esf.ProxyCycles
import EdgeDeviceCore.Dlog.Truncation
import EdgeDeviceCore.Ota.LinkSwitch
import EdgeDeviceCore.Ota.RunningDeployment
import EdgeDeviceCore.Ota.LinkSpelling
import EdgeDeviceCore.Ota.VersionCheck
import EdgeDeviceCore.Esf.Config
import EdgeDeviceCore.Esf.ProxyRoundTrip
import EdgeDeviceCore.Agent.SymbolQueue
import EdgeDeviceCore.Psm.InsertText
import EdgeDeviceCore.Psm.ToolRuns
import EdgeDeviceCore.Agent.MemoryRuns
import EdgeDeviceCore.Ota.BlueGreen
import EdgeDeviceCore.Package.Configuration
import EdgeDeviceCore.Package.Removal
import EdgeDeviceCore.Package.Certificates
import EdgeDeviceCore.Agent.Shutdown
import EdgeDeviceCore.Ota.Release
