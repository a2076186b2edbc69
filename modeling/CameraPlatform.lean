import CameraPlatform.HttpRoundTrip
import CameraPlatform.Base.Json
import CameraPlatform.Base.JsonScanner
import CameraPlatform.Model
import CameraPlatform.JsonEscape
import CameraPlatform.JsonRoundTrip
import CameraPlatform.FormQuery
import CameraPlatform.QueryForms
import CameraPlatform.HttpTruncation
import CameraPlatform.HttpSafety
import CameraPlatform.HttpResponse
import CameraPlatform.Base.RefHeap
import CameraPlatform.Gst
import CameraPlatform.GstFrame
import CameraPlatform.ProfileBin
import CameraPlatform.ProfileState
import CameraPlatform.ProfileHost
import CameraPlatform.HostSetup
import CameraPlatform.SetupRollback
import CameraPlatform.Base.History
import CameraPlatform.HostReady
import CameraPlatform.ProfileSwitch
import CameraPlatform.VideoPipeline
import CameraPlatform.BusQueue
import CameraPlatform.BusDelivery
import CameraPlatform.RtspProfileServer
import CameraPlatform.BridgeWiring
import CameraPlatform.BridgeSetup
import CameraPlatform.MediaSlots
import CameraPlatform.HostEvents
import CameraPlatform.BranchCaps
import CameraPlatform.MountLifetime
import CameraPlatform.ProfileLifecycle
import CameraPlatform.SampleRouting
import CameraPlatform.Application
import CameraPlatform.ApplicationState
import CameraPlatform.Base.Cutting
import CameraPlatform.Base.FormUrl
import CameraPlatform.ApplicationRun
import CameraPlatform.GstSpares
import CameraPlatform.HostSpares
import CameraPlatform.ApplicationStart
import CameraPlatform.Teardown
import CameraPlatform.Startup
import CameraPlatform.VideoLedger
import CameraPlatform.HostLedger
import CameraPlatform.ServerLedger
import CameraPlatform.BusHandler
import CameraPlatform.PipelineLife
import CameraPlatform.WatchLife
import CameraPlatform.NullSafety
import CameraPlatform.VideoLifecycle
import CameraPlatform.HttpImage
import CameraPlatform.MountMutex
import CameraPlatform.ControlCalls
import CameraPlatform.ApplicationLife
import CameraPlatform.ApplicationMounts
import CameraPlatform.MainLoop
import CameraPlatform.ValvePaths
import CameraPlatform.HostPanel
import CameraPlatform.HostRecovery
import CameraPlatform.ApplicationStarts
import CameraPlatform.VideoPaths
import CameraPlatform.BranchPaths
