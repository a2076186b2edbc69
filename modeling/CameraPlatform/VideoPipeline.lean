import CameraPlatform.ProfileHost

/-!
# `VideoPipeline` (`video/VideoPipeline.cpp`)

The local pipeline `source ! convert ! caps ! sink`.
-/

namespace CameraPlatform
open ByteString RefHeap

/-- The implementations of `VideoSink`, the second one from the tests. -/
inductive VideoSink where
  | AutoVideoSink
  | FakeSink
deriving DecidableEq

def VideoSink.createElement (fails : Bool) (g : Gst) : VideoSink → Option Nat × Gst
  | AutoVideoSink => g.factoryMake fails (ascii "autovideosink") (ascii "video-sink")
  | FakeSink => g.factoryMake fails (ascii "fakesink") (ascii "fake-sink")

structure VideoPipeline where
  videoSource : Option VideoSource := none
  videoSink : Option VideoSink := some .AutoVideoSink
  source : Option Nat := none
  pipeline : Option Nat := none
  videoConvert : Option Nat := none
  videoCaps : Option Nat := none
  sink : Option Nat := none
  caps : VideoCaps := {}
  watch : BusWatch := {}
deriving DecidableEq

/-- The calls of `setupPipeline` that may fail. -/
inductive VideoCall where
  | source
  | pipeline
  | videoConvert
  | videoCaps
  | sink
  | link
deriving DecidableEq

namespace VideoPipeline

def setVideoSource (v : VideoPipeline) (source : Option VideoSource) : PipelineOutcome × VideoPipeline :=
  (.success, { v with videoSource := source })

def setVideoSink (v : VideoPipeline) (sink : Option VideoSink) : PipelineOutcome × VideoPipeline :=
  (.success, { v with videoSink := sink })

def isPipelineSetup (v : VideoPipeline) : Bool :=
  v.pipeline.isSome && v.source.isSome && v.videoConvert.isSome && v.videoCaps.isSome && v.sink.isSome

def detachBusWatch (v : VideoPipeline) (g : Gst) : VideoPipeline × Gst :=
  let (watch, g) := v.watch.detachBusWatch g
  ({ v with watch }, g)

def stop (v : VideoPipeline) (g : Gst) : PipelineOutcome × VideoPipeline × Gst :=
  let (v, g) := v.detachBusWatch g
  match v.pipeline with
  | some pipeline =>
    -- the elements go with the pipeline
    let g := (g.setState false pipeline .null).2
    (.success, { v with pipeline := none, source := none, videoConvert := none, videoCaps := none, sink := none },
      g.unref pipeline)
  | none =>
    (.success, { v with source := none, videoConvert := none, videoCaps := none, sink := none },
      (((g.clearObject v.source).clearObject v.videoConvert).clearObject v.videoCaps).clearObject v.sink)

/-- `setupPipeline` builds its caps without `toGstCaps`. -/
def setupCaps (c : VideoCaps) : RawCaps :=
  { format := cStr c.format, width := c.width, height := c.height, fpsNum := c.fps_num, fpsDenom := c.fps_denom }

theorem setupCaps_eq (c : VideoCaps) : setupCaps c = c.toGstCaps := rfl

/-- `setupPipeline` from the configuration of the elements on. -/
def setupElements (fails : VideoCall → Bool) (v : VideoPipeline)
    (pipeline source videoConvert videoCaps sink : Nat) (g : Gst) : PipelineOutcome × VideoPipeline × Gst :=
  let g := g.setObject videoCaps (ascii "caps") (.caps (setupCaps v.caps))
  let g := g.binAddMany pipeline [source, videoConvert, videoCaps, sink]
  let (linked, g) := g.linkMany (fails .link) [source, videoConvert, videoCaps, sink]
  if linked then (.success, v, g)
  else (.failure "Failed to link elements in the pipeline", (v.stop g).2)

def setupPipeline (fails : VideoCall → Bool) (v : VideoPipeline) (g : Gst) :
    PipelineOutcome × VideoPipeline × Gst :=
  if v.isPipelineSetup then (.failure "Pipeline is setup", v, g)
  else
    match v.videoSource with
    | none => (.failure "videoSource is not set", v, g)
    | some videoSource =>
      let (source, g) := videoSource.createElement (fails .source) g
      let (pipeline, g) := g.pipelineNew (fails .pipeline) (ascii "video-pipeline")
      let (videoConvert, g) := g.factoryMake (fails .videoConvert) (ascii "videoconvert") (ascii "video-convert")
      let (videoCaps, g) := g.factoryMake (fails .videoCaps) (ascii "capsfilter") (ascii "video-caps")
      let (sink, g) := match v.videoSink with
        | some videoSink => videoSink.createElement (fails .sink) g
        | none => (none, g.nullUse)
      let v := { v with source, pipeline, videoConvert, videoCaps, sink }
      match pipeline, source, videoConvert, videoCaps, sink with
      | some pipeline, some source, some videoConvert, some videoCaps, some sink =>
        setupElements fails v pipeline source videoConvert videoCaps sink g
      | _, _, _, _, _ => (.failure "Failed to create GStreamer elements", (v.stop g).2)

def setCaps (v : VideoPipeline) (caps : VideoCaps) (g : Gst) : PipelineOutcome × VideoPipeline × Gst :=
  let v := { v with caps }
  match v.isPipelineSetup, v.videoCaps with
  | true, some videoCaps => (.success, v, g.setObject videoCaps (ascii "caps") (.caps caps.toGstCaps))
  | _, _ => (.success, v, g)

/-- `isPipelineInState`, where `gst_element_get_state` may fail. -/
def isPipelineInState (fails : Bool) (v : VideoPipeline) (states : List GstState) (g : Gst) : Bool :=
  match v.isPipelineSetup, v.pipeline.bind g.obj with
  | true, some o => !fails && o.state ∈ states
  | _, _ => false

def play (getFails setFails : Bool) (v : VideoPipeline) (g : Gst) : PipelineOutcome × Gst :=
  match v.isPipelineSetup, v.pipeline with
  | true, some pipeline =>
    if v.isPipelineInState getFails [.null, .ready, .paused] g then
      let (ok, g) := g.setState setFails pipeline .playing
      (if ok then .success else .failure "Failed to set pipeline to PLAYING state", g)
    else (.failure "Invalid pipeline state for play", g)
  | _, _ => (.failure "Pipeline is not setup", g)

def pause (getFails setFails : Bool) (v : VideoPipeline) (g : Gst) : PipelineOutcome × Gst :=
  match v.isPipelineSetup, v.pipeline with
  | true, some pipeline =>
    if v.isPipelineInState getFails [.playing] g then
      let (ok, g) := g.setState setFails pipeline .paused
      (if ok then .success else .failure "Failed to set pipeline to PAUSED state", g)
    else (.failure "Pipeline is not in PLAYING state, cannot pause", g)
  | _, _ => (.failure "Pipeline is not setup", g)

/-- `gst_element_seek_simple` leaves the elements as they are, wherever it seeks to. -/
def seek (getFails seekFails : Bool) (v : VideoPipeline) (g : Gst) : PipelineOutcome × Gst :=
  if v.isPipelineSetup then
    if v.isPipelineInState getFails [.playing, .paused] g then
      if seekFails then (.failure "Pipeline cannot be seeked", g.fail) else (.success, g)
    else (.failure "Pipeline is not in PLAYING or PAUSED state, cannot seek", g)
  else (.failure "Pipeline is not setup", g)

/-- `currentPosition` and `duration`; `answer` is what the query finds. -/
def clockQuery (getFails : Bool) (answer : Option Int64) (v : VideoPipeline) (g : Gst) : Int64 :=
  if v.isPipelineSetup && v.isPipelineInState getFails [.playing, .paused] g then answer.getD (-1) else -1

def currentPosition (getFails : Bool) (answer : Option Int64) (v : VideoPipeline) (g : Gst) : Int64 :=
  v.clockQuery getFails answer g

def duration (getFails : Bool) (answer : Option Int64) (v : VideoPipeline) (g : Gst) : Int64 :=
  v.clockQuery getFails answer g

def attachBusWatch (fails : WatchCall → Bool) (context callback : Option Nat) (v : VideoPipeline) (g : Gst) :
    PipelineOutcome × VideoPipeline × Gst :=
  match context, callback with
  | some context, some callback =>
    match v.isPipelineSetup, v.pipeline with
    | true, some pipeline =>
      let (outcome, watch, g) := v.watch.attachBusWatch fails pipeline context callback g
      (outcome, { v with watch }, g)
    | _, _ => (.failure "Pipeline is not setup", v, g)
  | _, _ => (.failure "Invalid context or callback", v, g)

def onBusMessageStatic (v : VideoPipeline) (g : Gst) : List Report × Gst :=
  match v.isPipelineSetup, v.pipeline with
  | true, some pipeline => v.watch.onBusMessageStatic pipeline g
  | _, _ => ([], g)

end VideoPipeline

end CameraPlatform
