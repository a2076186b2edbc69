import CameraPlatform.RtspProfileServer

/-!
# `Application` (`server/Application.cpp`)

The constructor, `initialize` and the control interface. The server of the application shares the
heap of its host.
-/

namespace CameraPlatform
open ByteString RefHeap

/-- The signals the application handles. -/
inductive Signum where
  | SIGINT
  | SIGTERM
deriving DecidableEq

/-- What fails in one `initialize`; `attach` is the message of an RTSP source that cannot be created. -/
structure InitFaults where
  signal : Signum → Bool
  setup : SetupFaults
  watch : WatchCall → Bool
  attach : Option Bytes

structure Application where
  host : ProfileHost
  rtsp : Option RtspProfileServer := none
  mainLoop : Option Nat := none
  sigintSource : Option Nat := none
  sigtermSource : Option Nat := none
  context : Option Nat := none
  bridge : Bridge

namespace Application

def kDefaultCatalog : List ProfileInfo :=
  [{ name := ascii "hd", width := 1920, height := 1080, fps := 30, bitrateKbps := 4000,
     url := proto.rtspUrlFor proto.kRtspPort (ascii "hd") proto.loopback },
   { name := ascii "sd", width := 1280, height := 720, fps := 30, bitrateKbps := 2000,
     url := proto.rtspUrlFor proto.kRtspPort (ascii "sd") proto.loopback },
   { name := ascii "low", width := 854, height := 480, fps := 30, bitrateKbps := 800,
     url := proto.rtspUrlFor proto.kRtspPort (ascii "low") proto.loopback },
   { name := ascii "thumb", width := 640, height := 360, fps := 30, bitrateKbps := 300,
     url := proto.rtspUrlFor proto.kRtspPort (ascii "thumb") proto.loopback }]

def profiles (app : Application) : List ProfileInfo := app.host.profiles

def setProfileEnabled (name : Bytes) (enabled : Bool) (app : Application) : Bool × Application :=
  let (outcome, host, gst) := app.host.setProfileEnabled name enabled app.bridge.gst
  (outcome.ok, { app with host, bridge := { app.bridge with gst } })

/-- The constructor. -/
def new (g : Gst) : Application :=
  kDefaultCatalog.foldl (fun app profile => (app.setProfileEnabled profile.name false).2)
    { host := .new kDefaultCatalog, bridge := { gst := g } }

/-- The lambda of `installSignalHandlers`. -/
def attachSignalSource (fails : Bool) (context : Nat) (g : Gst) : Option Nat × Gst :=
  if fails then (none, g.fail)
  else (some g.next, (g.alloc false { type := ascii "GSource" }).sourceAttach g.next context)

def installSignalHandlers (fails : Signum → Bool) (app : Application) : Bool × Application :=
  match app.context with
  | none => (false, app)
  | some context =>
    let (sigintSource, gst) := attachSignalSource (fails .SIGINT) context app.bridge.gst
    let (sigtermSource, gst) := attachSignalSource (fails .SIGTERM) context gst
    (sigintSource.isSome && sigtermSource.isSome,
      { app with sigintSource, sigtermSource, bridge := { app.bridge with gst } })

/-- The callback that `attachPipelineEvents` installs. -/
def onPipelineEvent : Nat := 0

def attachPipelineEvents (fails : WatchCall → Bool) (app : Application) : Bool × Application :=
  match app.context with
  | none => (false, app)
  | some context =>
    let (outcome, host, gst) := app.host.attachBusWatch fails (some context) (some onPipelineEvent) app.bridge.gst
    (outcome.ok, { app with host, bridge := { app.bridge with gst } })

/-- `initialize` from the construction of the server on. -/
def startServer (faults : InitFaults) (context : Nat) (app : Application) : Bool × Application :=
  let (server, bridge) := RtspProfileServer.construct proto.kRtspPort app.host app.bridge
  let (attached, app) := attachPipelineEvents faults.watch { app with rtsp := some server, bridge }
  if attached then
    let (outcome, server, gst) := server.attach faults.attach context app.bridge.gst
    (outcome.ok, { app with rtsp := some server, bridge := { app.bridge with gst } })
  else (false, app)

/-- `initialize` from the setup of the pipeline on. -/
def startPipeline (faults : InitFaults) (context : Nat) (app : Application) : Bool × Application :=
  let (outcome, host, gst) := app.host.setupPipeline faults.setup app.bridge.gst
  let app := { app with host, bridge := { app.bridge with gst } }
  if outcome.ok then app.startServer faults context else (false, app)

/-- `initialize`. -/
def initializeWith (faults : InitFaults) (app : Application) : Bool × Application :=
  let context := app.bridge.gst.next
  let mainLoop := context + 1
  let gst := (app.bridge.gst.alloc false { type := ascii "GMainContext" }).alloc false
    { type := ascii "GMainLoop", context := some context }
  let app := { app with
    context := some context
    mainLoop := some mainLoop
    bridge := { app.bridge with gst := gst.ref context } }
  -- without its handlers the application goes on
  let (_, app) := app.installSignalHandlers faults.signal
  let (outcome, host) := app.host.setVideoSource (some .TestVideoSource)
  let app := { app with host }
  if outcome.ok then app.startPipeline faults context else (false, app)

end Application

end CameraPlatform
