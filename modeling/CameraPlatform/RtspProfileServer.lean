import CameraPlatform.Base.Decimal
import CameraPlatform.ProfileHost

/-!
# `RtspProfileServer` (`server/RtspProfileServer.cpp`)

A mount is a block of memory of its own, which handlers receive by address. Its memory is marked
when it is freed, so that a handler that is called with it afterwards can be told.
-/

namespace CameraPlatform
open ByteString RefHeap

structure Mount where
  name : Bytes := []
  appSink : Option Nat := none
  appSrc : Option Nat := none
  factory : Option Nat := none
deriving DecidableEq

namespace Mount

/-- What `onMediaPrepared` prints. -/
def startedText (m : Mount) : Bytes := ascii "[server] Profile " ++ cStr m.name ++ ascii " started serving\n"

/-- What `onMediaUnprepared` prints. -/
def stoppedText (m : Mount) : Bytes := ascii "[server] Profile " ++ cStr m.name ++ ascii " stopped serving\n"

end Mount

structure MountCell where
  mount : Mount
  freed : Bool := false
deriving DecidableEq

/-- A medium that a factory made for its clients. -/
structure Medium where
  object : Nat
  factory : Nat
  appSrc : Nat
  prepared : Bool := false
  unprepared : Bool := false
deriving DecidableEq

/-- What `onNewSample` does with samples and buffers. -/
inductive Action where
  | pullSample (sink : Nat) (sample : Option Nat)
  | bufferCopy (sample buffer : Nat)
  | setCaps (appSrc : Nat) (caps : Bytes)
  | pushBuffer (appSrc buffer : Nat)
  | bufferUnref (buffer : Nat)
  | sampleUnref (sample : Nat)
deriving DecidableEq

/-- The objects, the mounts by address, the media, the handlers that were called with freed memory,
and what was done with samples. -/
structure Bridge where
  gst : Gst
  mounts : List MountCell := []
  media : List Medium := []
  dangling : List (Callback × Nat) := []
  log : List Action := []

namespace Bridge
variable (b : Bridge)

/-- A handler works on its mount, under the mutex of the mount. -/
def withMount (callback : Callback) (address : Nat) (body : Mount → Mount × Gst × List Action) : Bridge :=
  match b.mounts[address]? with
  | some ⟨mount, false⟩ =>
    let (mount, gst, log) := body mount
    { b with gst, mounts := b.mounts.set address ⟨mount, false⟩, log := b.log ++ log }
  | _ => { b with dangling := b.dangling ++ [(callback, address)] }

/-- `onMediaConfigure` under the mutex. -/
def configureMount (g : Gst) (media address : Nat) (mount : Mount) : Mount × Gst × List Action :=
  let (appSrc, g) := match (g.obj media).bind (·.element) with
    | some bin =>
      let (appSrc, g) := (g.ref bin).binGetByName bin (ascii "profile_src")
      (appSrc, g.unref bin)
    | none => (none, g.nullUse)
  let g := g.connect media ⟨.prepared, .onMediaPrepared, address⟩
  let g := g.connect media ⟨.unprepared, .onMediaUnprepared, address⟩
  ({ mount with appSrc }, g, [])

def onMediaConfigure (media address : Nat) : Bridge :=
  b.withMount .onMediaConfigure address (configureMount b.gst media address)

/-- Only prints. -/
def onMediaPrepared (address : Nat) : Bridge :=
  b.withMount .onMediaPrepared address fun mount => (mount, b.gst, [])

def onMediaUnprepared (address : Nat) : Bridge :=
  b.withMount .onMediaUnprepared address fun mount =>
    ({ mount with appSrc := none }, b.gst.clearObject mount.appSrc, [])

/-- `onNewSample` under the mutex; `pulled` is what the appsink has to give. -/
def pullInto (g : Gst) (sink : Nat) (pulled : Option GstSample) (mount : Mount) : Mount × Gst × List Action :=
  match pulled with
  | none => (mount, g, [.pullSample sink none])
  | some sample =>
    let s := g.next
    let buffer := s + 1
    let g := ((g.sampleNew sample).bufferCopy sample.buffer).bufferClearTimes buffer
    match mount.appSrc with
    | some appSrc =>
      (mount, g.unref s, [.pullSample sink (some s), .bufferCopy s buffer, .setCaps appSrc sample.caps,
        .pushBuffer appSrc buffer, .sampleUnref s])
    | none =>
      (mount, (g.unref buffer).unref s, [.pullSample sink (some s), .bufferCopy s buffer, .bufferUnref buffer,
        .sampleUnref s])

def onNewSample (sink : Nat) (pulled : Option GstSample) (address : Nat) : Bridge :=
  b.withMount .onNewSample address (pullInto b.gst sink pulled)

/-! ### Signals -/

/-- An emission, with what the handlers are passed. A pull returns `pulled` of the mount. -/
inductive Emission where
  | newSample (sink : Nat) (pulled : Nat → Option GstSample)
  | mediaConfigure (factory media : Nat)
  | prepared (media : Nat)
  | unprepared (media : Nat)

def Emission.object : Emission → Nat
  | newSample sink _ => sink
  | mediaConfigure factory _ => factory
  | prepared media => media
  | unprepared media => media

def Emission.signal : Emission → Signal
  | newSample .. => .newSample
  | mediaConfigure .. => .mediaConfigure
  | prepared _ => .prepared
  | unprepared _ => .unprepared

def invoke (e : Emission) (b : Bridge) (h : Handler) : Bridge :=
  match h.callback, e with
  | .onNewSample, .newSample sink pulled => b.onNewSample sink (pulled h.userData) h.userData
  | .onMediaConfigure, .mediaConfigure _ media => b.onMediaConfigure media h.userData
  | .onMediaPrepared, .prepared _ => b.onMediaPrepared h.userData
  | .onMediaUnprepared, .unprepared _ => b.onMediaUnprepared h.userData
  | _, _ => b

def emit (e : Emission) : Bridge := (b.gst.handlersOf e.object e.signal).foldl (invoke e) b

end Bridge

/-- What the appsinks, the media factories and the media do. -/
inductive BridgeEvent where
  | newSample (sink : Nat) (pulled : Nat → Option GstSample)
  | configure (factory : Nat)
  | prepared (medium : Nat)
  | unprepared (medium : Nat)

namespace Bridge

/-- One event, if its object is still there. Only appsinks that a mount took from the host have
handlers; a medium is prepared and unprepared at most once. -/
def step (b : Bridge) : BridgeEvent → Bridge
  | .newSample sink pulled =>
    if (b.mounts.any fun c => c.mount.appSink == some sink) && b.gst.alive sink then b.emit (.newSample sink pulled)
    else b
  | .configure factory =>
    if (b.mounts.any fun c => c.mount.factory == some factory) && b.gst.alive factory then
      let media := b.gst.next
      emit { b with
          gst := b.gst.mediaNew
          media := b.media ++ [{ object := media, factory, appSrc := media + 2 }] }
        (.mediaConfigure factory media)
    else b
  | .prepared i =>
    match b.media[i]? with
    | some m =>
      if !m.prepared && !m.unprepared && b.gst.alive m.object then
        emit { b with media := b.media.set i { m with prepared := true } } (.prepared m.object)
      else b
    | none => b
  | .unprepared i =>
    match b.media[i]? with
    | some m =>
      if !m.unprepared && b.gst.alive m.object then
        emit { b with media := b.media.set i { m with unprepared := true } } (.unprepared m.object)
      else b
    | none => b

/-! ### What is printed -/

/-- What a handler prints about its mount. -/
def line (b : Bridge) (e : Emission) (h : Handler) : Option Bytes :=
  match b.mounts[h.userData]?, h.callback, e with
  | some ⟨mount, false⟩, .onMediaPrepared, .prepared _ => some mount.startedText
  | some ⟨mount, false⟩, .onMediaUnprepared, .unprepared _ => some mount.stoppedText
  | _, _, _ => none

def lines (b : Bridge) (e : Emission) : List Bytes := (b.gst.handlersOf e.object e.signal).filterMap (b.line e)

/-- What the handlers print in an event. -/
def printed (b : Bridge) : BridgeEvent → List Bytes
  | .newSample .. => []
  | .configure _ => []
  | .prepared i =>
    match b.media[i]? with
    | some m => if !m.prepared && !m.unprepared && b.gst.alive m.object then b.lines (.prepared m.object) else []
    | none => []
  | .unprepared i =>
    match b.media[i]? with
    | some m => if !m.unprepared && b.gst.alive m.object then b.lines (.unprepared m.object) else []
    | none => []

end Bridge

structure RtspProfileServer where
  port : UInt16
  server : Option Nat
  /-- The addresses of the mounts. -/
  mounts : List Nat
  source : Option Nat := none
deriving DecidableEq

namespace RtspProfileServer

def launch : Bytes :=
  ascii "( appsrc name=profile_src is-live=true format=time do-timestamp=true ! h264parse ! " ++
    ascii "rtph264pay name=pay0 pt=96 config-interval=1 )"

/-- One turn of the loop of the constructor. -/
def addMount (h : ProfileHost) (mountPoints : Nat) (name : Bytes) (b : Bridge) : Bridge :=
  let address := b.mounts.length
  let factory := b.gst.next
  let g := b.gst.alloc false { type := ascii "GstRTSPMediaFactory" }
  let g := g.setObject factory (ascii "launch") (.string launch)
  let g := g.setObject factory (ascii "shared") (.boolean true)
  let g := g.connect factory ⟨.mediaConfigure, .onMediaConfigure, address⟩
  let appSink := h.appSinkForProfile name
  let g := match appSink with
    | some sink => g.connect sink ⟨.newSample, .onNewSample, address⟩
    | none => g
  -- the mount points own the factory, under its path
  let g := (g.setObject factory (ascii "path") (.string (cStr (ascii "/" ++ name)))).setOwner mountPoints factory
  { b with gst := g, mounts := b.mounts ++ [{ mount := { name, appSink, factory := some factory } }] }

def addMounts (h : ProfileHost) (mountPoints : Nat) (profiles : List ProfileInfo) (b : Bridge) : Bridge :=
  profiles.foldl (fun b profile => addMount h mountPoints profile.name b) b

/-- The new server with its mount points: the server is no floating object, so sinking it adds a reference. -/
def serverNew (port : UInt16) (g : Gst) : Gst :=
  let server := g.next
  let g := ((g.alloc false { type := ascii "GstRTSPServer" }).alloc false { type := ascii "GstRTSPMountPoints" }).setOwner
    server (server + 1)
  (g.refSink server).setObject server (ascii "service") (.string (decimal port.toNat))

/-- The constructor. -/
def construct (port : UInt16) (h : ProfileHost) (b : Bridge) : RtspProfileServer × Bridge :=
  let server := b.gst.next
  let mountPoints := server + 1
  let first := b.mounts.length
  let b := addMounts h mountPoints h.profiles { b with gst := (serverNew port b.gst).ref mountPoints }
  ({ port, server := some server, mounts := List.range' first h.profiles.length },
    { b with gst := b.gst.unref mountPoints })

/-- `attach`; `error` is the message of a source that cannot be created. -/
def attach (error : Option Bytes) (context : Nat) (s : RtspProfileServer) (g : Gst) :
    PipelineOutcome × RtspProfileServer × Gst :=
  if s.server.isNone then (.failure "No server available", s, g)
  else if s.source.isSome then (.failure "Server already attached", s, g)
  else
    match error with
    | some message => ({ ok := false, error := ascii "Failed to attach rtsp server: " ++ message }, s, g.fail)
    | none =>
      (.success, { s with source := some g.next },
        (g.alloc false { type := ascii "GSource" }).sourceAttach g.next context)

def detach (s : RtspProfileServer) (g : Gst) : RtspProfileServer × Gst :=
  match s.source with
  | some source => ({ s with source := none }, (g.sourceDestroy source).unref source)
  | none => (s, g)

/-- The destructor. -/
def destroy (s : RtspProfileServer) (b : Bridge) : Bridge :=
  let (s, g) := s.detach b.gst
  { b with
    gst := g.clearObject s.server
    mounts := b.mounts.mapIdx fun address c => if address ∈ s.mounts then { c with freed := true } else c }

end RtspProfileServer

end CameraPlatform
