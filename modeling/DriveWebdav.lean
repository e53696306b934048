import DriveWebdav.Foundation.Text
import DriveWebdav.Foundation.Program
import DriveWebdav.Foundation.Interference
import DriveWebdav.Foundation.Process
import DriveWebdav.Foundation.InsertionMap
import DriveWebdav.Foundation.Trace
import DriveWebdav.Errors
import DriveWebdav.OverwriteGuard
import DriveWebdav.Sdk
import DriveWebdav.Paths
import DriveWebdav.Drive
import DriveWebdav.Drive.Commit
import DriveWebdav.Gateway
import DriveWebdav.Webdav.Headers
import DriveWebdav.Webdav.Propfind
import DriveWebdav.Webdav.Handlers
import DriveWebdav.SdkGateway.Errors
import DriveWebdav.SdkGateway.Resolve
import DriveWebdav.SdkGateway.Lookup
import DriveWebdav.SdkGateway.Operations
import DriveWebdav.SdkGateway.Read
import DriveWebdav.SdkGateway.Gateway
import DriveWebdav.SdkGateway.Faults
import DriveWebdav.Webdav.GatewayCalls
import DriveWebdav.Webdav.GuardHistory
import DriveWebdav.Webdav.CleanupDelete
import DriveWebdav.Webdav.AbandonedPut
import DriveWebdav.Webdav.CommittedPut
import DriveWebdav.Foundation.Machine
import DriveWebdav.Foundation.ReadableStream
import DriveWebdav.SdkGateway.WholeRead
import DriveWebdav.SdkGateway.RangedRead
import DriveWebdav.SdkGateway.DownloadSlots
import DriveWebdav.SessionStore.Ownership
import DriveWebdav.SessionStore.SingleOwner
import DriveWebdav.SessionStore.OwnedFile
import DriveWebdav.SessionStore.ForeignWrites
import DriveWebdav.SessionStore.EventsLock
import DriveWebdav.Serve.Socket
import DriveWebdav.Serve.SocketOwner
import DriveWebdav.Systemd.CopyPass
import DriveWebdav.Systemd.CopyMarker
import DriveWebdav.Foundation.Disk
import DriveWebdav.SessionStore.PrivateFile
import DriveWebdav.SessionStore.AtomicWrite
import DriveWebdav.Bootstrap.Service
import DriveWebdav.Bootstrap.LockHandover
import DriveWebdav.Webdav.Href
import DriveWebdav.Foundation.Xml
import DriveWebdav.Webdav.ListingXml
import DriveWebdav.Webdav.WellFormed
import DriveWebdav.Foundation.Folders
import DriveWebdav.MockGateway.Operations
import DriveWebdav.MockGateway.Snapshot
import DriveWebdav.MockGateway.Restarts
import DriveWebdav.MockGateway.Upload
import DriveWebdav.MockGateway.CutUploads
import DriveWebdav.Drive.Changes
import DriveWebdav.PutDecision
import DriveWebdav.SdkGateway.Double
import DriveWebdav.SdkGateway.DoublePut
import DriveWebdav.MockGateway.DecidedPut
import DriveWebdav.PutAgreement
import DriveWebdav.Foundation.Progress
import DriveWebdav.SdkGateway.Calls
import DriveWebdav.Webdav.Concurrent
import DriveWebdav.Webdav.ImmutableContent
import DriveWebdav.SdkGateway.ReleasedRead
import DriveWebdav.SdkGateway.PutBody
import DriveWebdav.SdkGateway.RangedContent
import DriveWebdav.MockGateway.Read
import DriveWebdav.Webdav.RangeHeader
import DriveWebdav.Webdav.Get
import DriveWebdav.Webdav.TornGet
import DriveWebdav.Drive.Relocation
import DriveWebdav.SdkGateway.Alone
import DriveWebdav.SdkGateway.TreeSdk
import DriveWebdav.SdkGateway.Visibility
import DriveWebdav.SdkGateway.Move
import DriveWebdav.Foundation.Execution
import DriveWebdav.SdkGateway.FaultyTree
import DriveWebdav.SdkGateway.MoveReport
import DriveWebdav.Foundation.Ageing
import DriveWebdav.SdkGateway.CacheAccess
import DriveWebdav.SdkGateway.CacheBound
import DriveWebdav.SdkGateway.PathViews
import DriveWebdav.SessionStore.LockAge
import DriveWebdav.MockGateway.TreeOperations
import DriveWebdav.MockGateway.RoundTrip
import DriveWebdav.Foundation.CodeUnits
import DriveWebdav.Foundation.Calendar
import DriveWebdav.Foundation.Retention
import DriveWebdav.SessionStore.PrivateTwin
import DriveWebdav.SessionStore.SignOut
import DriveWebdav.SessionStore.SignOutMarkers
import DriveWebdav.Webdav.ForeignDrafts
import DriveWebdav.Drive.Places
import DriveWebdav.SdkGateway.CacheAnchors
import DriveWebdav.SdkGateway.AnchoredOperations
import DriveWebdav.SdkGateway.SettledCache
import DriveWebdav.Foundation.PathMap
import DriveWebdav.FileServer
import DriveWebdav.MockGateway.Serving
import DriveWebdav.Webdav.FileService
import DriveWebdav.MockGateway.Service
import DriveWebdav.Drive.Tree
import DriveWebdav.Drive.TreeChanges
import DriveWebdav.Drive.Sound
import DriveWebdav.SdkGateway.Store
import DriveWebdav.SdkGateway.SteadyReads
import DriveWebdav.SdkGateway.StoreOperations
import DriveWebdav.SdkGateway.StoreMove
import DriveWebdav.SdkGateway.StorePut
import DriveWebdav.SdkGateway.StoreDouble
import DriveWebdav.SdkGateway.Service
import DriveWebdav.Webdav.FileReads
import DriveWebdav.SdkGateway.StoreReads
import DriveWebdav.SdkGateway.ServiceReads
import DriveWebdav.MockGateway.ServiceReads
import DriveWebdav.Webdav.UploadedContent
import DriveWebdav.Foundation.Records
import DriveWebdav.Webdav.Plans
