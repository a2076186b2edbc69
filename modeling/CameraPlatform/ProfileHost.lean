import CameraPlatform.BusWatch
import CameraPlatform.ProfileBin

/-!
# `ProfileHost` (`server/ProfileHost.cpp`)

The shared pipeline `source ! convert ! caps ! tee` with one branch per profile.
-/

namespace CameraPlatform
open ByteString RefHeap

/-- `VideoCaps` of `video/VideoPipeline.hpp`. -/
structure VideoCaps where
  format : Bytes := ascii "I420"
  width : Int32 := 640
  height : Int32 := 480
  fps_num : Int32 := 30
  fps_denom : Int32 := 1
deriving DecidableEq

def VideoCaps.toGstCaps (c : VideoCaps) : RawCaps := ⟨cStr c.format, c.width, c.height, c.fps_num, c.fps_denom⟩

/-- The two implementations of `VideoSource`. -/
inductive VideoSource where
  | TestVideoSource
  | CameraVideoSource
deriving DecidableEq

def VideoSource.createElement (fails : Bool) (g : Gst) : VideoSource → Option Nat × Gst
  | TestVideoSource => g.factoryMake fails (ascii "videotestsrc") (ascii "test-source")
  | CameraVideoSource => g.factoryMake fails (ascii "v4l2src") (ascii "camera-source")

structure ProfileHost where
  videoSource : Option VideoSource := none
  profileBins : List ProfileBin
  pipeline : Option Nat := none
  source : Option Nat := none
  videoConvert : Option Nat := none
  sourceCaps : Option Nat := none
  tee : Option Nat := none
  isLinked : Bool := false
  watch : BusWatch := {}
deriving DecidableEq

/-- The calls of `setupPipeline` that may fail outside `ProfileBin::createElement`. -/
inductive HostCall where
  | pipeline
  | source
  | videoConvert
  | sourceCaps
  | tee
  | link
  | padLink (branch : Nat)
deriving DecidableEq

/-- Which calls of one `setupPipeline` fail. -/
structure SetupFaults where
  host : HostCall → Bool
  bin : Nat → BinCall → Bool

namespace ProfileHost

/-- The constructor. -/
def new (profiles : List ProfileInfo) : ProfileHost := { profileBins := profiles.map fun profile => { profile } }

def setVideoSource (h : ProfileHost) (source : Option VideoSource) : PipelineOutcome × ProfileHost :=
  (.success, { h with videoSource := source })

def cleanup (h : ProfileHost) (g : Gst) : ProfileHost × Gst :=
  let g :=
    if h.isLinked then
      let g := match h.pipeline with
        | some pipeline => (g.setState false pipeline .null).2
        | none => g
      g.clearObject h.pipeline
    else
      ((((g.clearObject h.pipeline).clearObject h.source).clearObject h.videoConvert).clearObject
        h.sourceCaps).clearObject h.tee
  ({ h with pipeline := none, source := none, videoConvert := none, sourceCaps := none, tee := none,
            isLinked := false }, g)

/-- The loop of `setupPipeline` over the branches, from branch `k` on: what went wrong, if anything. -/
def setupBranches (faults : SetupFaults) (pipeline tee : Nat) :
    Nat → List ProfileBin → Gst → Option String × List ProfileBin × Gst
  | _, [], g => (none, [], g)
  | k, b :: bs, g =>
    match b.createElement (faults.bin k) g with
    | (none, b, g) => (some "Failed to create profile bin element", b :: bs, g)
    | (some bin, b, g) =>
      let (linked, g) := (g.binAdd pipeline bin).padLink (faults.host (.padLink k)) tee bin
      if linked then
        let (error, bs, g) := setupBranches faults pipeline tee (k + 1) bs g
        (error, b :: bs, g)
      else (some "Failed to link tee pad to profile bin sink pad", b :: bs, g)

/-- The end of `setupPipeline`, given what its loop left. -/
def finishSetup (h : ProfileHost) : Option String × List ProfileBin × Gst → PipelineOutcome × ProfileHost × Gst
  | (none, bins, g) => (.success, { h with isLinked := true, profileBins := bins }, g)
  | (some reason, bins, g) => (.failure reason, { h with isLinked := true, profileBins := bins }.cleanup g)

/-- `setupPipeline` from the link of the shared elements on. -/
def setupElements (faults : SetupFaults) (h : ProfileHost) (pipeline source videoConvert sourceCaps tee : Nat)
    (g : Gst) : PipelineOutcome × ProfileHost × Gst :=
  let g := g.setObject sourceCaps (ascii "caps") (.caps (VideoCaps.toGstCaps {}))
  let g := g.binAddMany pipeline [source, videoConvert, sourceCaps, tee]
  let (linked, g) := g.linkMany (faults.host .link) [source, videoConvert, sourceCaps, tee]
  if linked then h.finishSetup (setupBranches faults pipeline tee 0 h.profileBins g)
  else (.failure "Failed to link GStreamer elements", h, g)

def setupPipeline (faults : SetupFaults) (h : ProfileHost) (g : Gst) : PipelineOutcome × ProfileHost × Gst :=
  match h.videoSource with
  | none => (.failure "Video source not set", h, g)
  | some videoSource =>
    if h.pipeline.isSome then (.failure "Pipeline already set up", h, g)
    else
      let (pipeline, g) := g.pipelineNew (faults.host .pipeline) (ascii "pipeline")
      let (source, g) := videoSource.createElement (faults.host .source) g
      let (videoConvert, g) := g.factoryMake (faults.host .videoConvert) (ascii "videoconvert") (ascii "video-convert")
      let (sourceCaps, g) := g.factoryMake (faults.host .sourceCaps) (ascii "capsfilter") (ascii "source-caps")
      let (tee, g) := g.factoryMake (faults.host .tee) (ascii "tee") (ascii "tee")
      let h := { h with pipeline, source, videoConvert, sourceCaps, tee }
      match pipeline, source, videoConvert, sourceCaps, tee with
      | some pipeline, some source, some videoConvert, some sourceCaps, some tee =>
        setupElements faults h pipeline source videoConvert sourceCaps tee g
      | _, _, _, _, _ => (.failure "Failed to create GStreamer elements", h.cleanup g)

/-- `play` and `stop`: the pipeline keeps its elements in both. -/
def setPipelineState (fails : Bool) (state : GstState) (reason : String) (h : ProfileHost) (g : Gst) :
    PipelineOutcome × Gst :=
  if h.isLinked then
    match h.pipeline with
    | some pipeline =>
      let (ok, g) := g.setState fails pipeline state
      (if ok then .success else .failure reason, g)
    | none => (.failure reason, g.fail)
  else (.failure "Pipeline not setup", g)

def play (fails : Bool) (h : ProfileHost) (g : Gst) : PipelineOutcome × Gst :=
  h.setPipelineState fails .playing "Failed to set pipeline to PLAYING" g

def stop (fails : Bool) (h : ProfileHost) (g : Gst) : PipelineOutcome × Gst :=
  h.setPipelineState fails .paused "Failed to set pipeline to PAUSED" g

/-- The `find_if` all lookups share. -/
def find (h : ProfileHost) (name : Bytes) : Option ProfileBin :=
  h.profileBins.find? fun b => b.profile.name == name

def setProfileEnabled (h : ProfileHost) (name : Bytes) (enabled : Bool) (g : Gst) :
    PipelineOutcome × ProfileHost × Gst :=
  match h.profileBins.findIdx? fun b => b.profile.name == name with
  | none => (.failure "Profile not found", h, g)
  | some i =>
    let g := match h.profileBins[i]? with
      | some b => b.setDrop (!enabled) g
      | none => g
    let state := if enabled then proto.kStateReady else proto.kStateOff
    (.success, { h with profileBins := h.profileBins.modify i fun b => (b.setState state []).2 }, g)

def profileEnabled (h : ProfileHost) (name : Bytes) (g : Gst) : Bool :=
  match h.find name with
  | some b => !b.isDropped g
  | none => false

def attachBusWatch (fails : WatchCall → Bool) (context callback : Option Nat) (h : ProfileHost) (g : Gst) :
    PipelineOutcome × ProfileHost × Gst :=
  match context, callback with
  | some context, some callback =>
    match h.isLinked, h.pipeline with
    | true, some pipeline =>
      let (outcome, watch, g) := h.watch.attachBusWatch fails pipeline context callback g
      (outcome, { h with watch }, g)
    | _, _ => (.failure "Pipeline is not setup", h, g)
  | _, _ => (.failure "Invalid context or callback", h, g)

def detachBusWatch (h : ProfileHost) (g : Gst) : ProfileHost × Gst :=
  let (watch, g) := h.watch.detachBusWatch g
  ({ h with watch }, g)

def onBusMessageStatic (h : ProfileHost) (g : Gst) : List Report × Gst :=
  match h.watch.busSource, h.pipeline with
  | some _, some pipeline => h.watch.onBusMessageStatic pipeline g
  | _, _ => ([], g)

def profiles (h : ProfileHost) : List ProfileInfo := h.profileBins.map (·.profile)

def appSinkForProfile (h : ProfileHost) (name : Bytes) : Option Nat := (h.find name).bind (·.appSink)

end ProfileHost

end CameraPlatform
