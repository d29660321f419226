import SophosFw.PyDict
import SophosFw.Coordinator
import SophosFw.CycleSpec
import SophosFw.Sources
import SophosFw.CycleOutcome
import SophosFw.Runs
import SophosFw.CycleRun
import SophosFw.Owing
import SophosFw.UniqueIds
import SophosFw.V1Ids
import SophosFw.Regex
import SophosFw.Domain
import SophosFw.StaticLeases
import SophosFw.SnmpOff
import SophosFw.SnmpValues
import SophosFw.SnmpTables
import SophosFw.Interfaces
import SophosFw.SnmpIssue
import SophosFw.Migration
import SophosFw.ConfigFlow
import SophosFw.TrafficRates
import SophosFw.Periods
import SophosFw.Polling
import SophosFw.Availability
import SophosFw.WriteSwitch
import SophosFw.Slot
import SophosFw.Unicode
import SophosFw.PyText
import SophosFw.Element
import SophosFw.Records
import SophosFw.Client
import SophosFw.RequestDocuments
import SophosFw.ClientRuns
import SophosFw.ClientExec
import SophosFw.Confirmation
import SophosFw.RefusedRead
import SophosFw.ReadWrite
import SophosFw.RecordLists
import SophosFw.RecordErrors
import SophosFw.Tracking
import SophosFw.Settling
import SophosFw.OneEntity
import SophosFw.Xml
import SophosFw.UrlGroup
import SophosFw.HostGroups
import SophosFw.BlockDevice
import SophosFw.UnblockDevice
import SophosFw.Registry
import SophosFw.DynamicSync
import SophosFw.SyncSpec
import SophosFw.Streak
import SophosFw.SyncOrder
import SophosFw.SyncRuns
import SophosFw.SnmpFamilies
import SophosFw.SyncTotal
import SophosFw.Removal
import SophosFw.Platforms
import SophosFw.PlatformSetup
import SophosFw.Redaction
import SophosFw.Diagnostics
import SophosFw.Permits
import SophosFw.SnmpTransport
import SophosFw.AllOrNothing
import SophosFw.Issues
import SophosFw.ServiceArgs
import SophosFw.Services
import SophosFw.VirtualAppliance
import SophosFw.FailureLog
import SophosFw.Memo
import SophosFw.DeviceRegistry
import SophosFw.Scope
import SophosFw.SlotLogic
import SophosFw.RecordRuns
import SophosFw.UrlGroupRuns
import SophosFw.Reload
import SophosFw.OptionsFlow
import SophosFw.FieldRuns
import SophosFw.Uptime
import SophosFw.SnmpReaders
import SophosFw.FieldPolls
import SophosFw.HostGroupRuns
import SophosFw.SensorStates
import SophosFw.Tostring
