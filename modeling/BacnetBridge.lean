import BacnetBridge.Lifecycle
import BacnetBridge.StateManager
import BacnetBridge.Ownership
import BacnetBridge.Persist
import BacnetBridge.Gate
import BacnetBridge.HubMode
import BacnetBridge.Fdt
import BacnetBridge.Survival
import BacnetBridge.RetryCache
import BacnetBridge.WriteRequest
import BacnetBridge.ReadTarget
import BacnetBridge.SyncSource
import BacnetBridge.Shutdown
import BacnetBridge.LiveLog
import BacnetBridge.Addressing
import BacnetBridge.Answers
import BacnetBridge.WriteAck
import BacnetBridge.WriteFrame
import BacnetBridge.Dispatch
import BacnetBridge.Resend
import BacnetBridge.PriorityArray
import BacnetBridge.CharacterStrings
import BacnetBridge.IAm
import BacnetBridge.HubReach
import BacnetBridge.HubRace
import BacnetBridge.ConfigChange
import BacnetBridge.OverrideOrder
import BacnetBridge.Environment
import BacnetBridge.PriorityHistory
import BacnetBridge.LogQuery
import BacnetBridge.ConfigFile
import BacnetBridge.FdtHistory
import BacnetBridge.Serve
import BacnetBridge.BdtAddress
import BacnetBridge.StatusFlags
import BacnetBridge.CivilDate
import BacnetBridge.ConfigForm
import BacnetBridge.Snapshot
import BacnetBridge.OneAtATime
import BacnetBridge.Tray
import BacnetBridge.Stranded
import BacnetBridge.Exchange
import BacnetBridge.WriteLog
import BacnetBridge.LogViewer
import BacnetBridge.LogMarkup
import BacnetBridge.Deployment
import BacnetBridge.Restart
import BacnetBridge.DeviceTask
import BacnetBridge.ReadBack
import BacnetBridge.Discovery
