import CameraPlatform.BusQueue
import CameraPlatform.VideoEvents

/-!
# The bus handler when its calls fail

The handler passes on what `gst_element_get_bus` and `gst_bus_pop` return without looking at it. In a
run messages arrive on the bus between the calls, and each dispatch says whether its handler gets the bus.
-/

namespace CameraPlatform
open ByteString RefHeap History

namespace Gst
variable (g : Gst)

/-- `gst_element_get_bus` of a pointer. -/
def elementGetBus (fails : Bool) : Option Nat → Option Nat × Gst
  | some pipeline => g.getBus fails pipeline
  | none => (none, g.nullUse)

/-- `gst_bus_pop` of a pointer. -/
def pointerPop : Option Nat → Option Nat × Gst
  | some bus => g.busPop bus
  | none => (none, g.nullUse)

/-- `gst_object_unref` of a pointer. -/
def objectUnref : Option Nat → Gst
  | some r => g.unref r
  | none => g.nullUse

/-- Messages are posted on the bus of the pipeline, if there is one. -/
def arrive (pipeline : Option Nat) (ms : List GstMessage) : Gst :=
  match pipeline.bind g.busOf with
  | some bus => g.postAll bus ms
  | none => g

end Gst

/-- One call of a run, with the messages that arrive before it. -/
structure Moment (Call : Type) where
  arrived : List GstMessage := []
  call : Call
  /-- `gst_element_get_bus` fails in the handler, should the call run it. -/
  noBus : Bool := false

/-- `onBusMessageStatic` after its guard. -/
def BusWatch.onBusMessage (fails : Bool) (pipeline : Option Nat) (w : BusWatch) (g : Gst) : List Report × Gst :=
  let (bus, g) := g.elementGetBus fails pipeline
  let (msg, g) := g.pointerPop bus
  let g := g.objectUnref bus
  let reports := match msg with
    | some msg => w.handleBusMessage g msg
    | none => []
  (reports, g.messageUnref msg)

/-- With a bus the handler is the one that is known. -/
theorem BusWatch.onBusMessage_eq {w : BusWatch} {g : Gst} {p bus : Nat} (hbus : g.busOf p = some bus) :
    w.onBusMessage false (some p) g = w.onBusMessageStatic p g := by
  have hget : g.getBus false p = (some bus, g.ref bus) := by
    unfold Gst.getBus
    rw [show (g.obj p).bind (·.bus) = some bus from hbus]
  unfold onBusMessage onBusMessageStatic
  rw [Gst.elementGetBus, hget]
  rfl

theorem Gst.Same.onBusMessage {α : Type} {f : GObject → α} [Gst.Queueless f] {g g' : Gst} (h : Gst.Same f g g')
    (fails : Bool) (pipeline : Option Nat) (w : BusWatch) : Gst.Same f g (w.onBusMessage fails pipeline g').2 := by
  have hbus : Gst.Same f g (g'.elementGetBus fails pipeline).2 := by
    cases pipeline with
    | none => exact h.heap rfl
    | some pipeline => exact h.getBus fails pipeline
  unfold BusWatch.onBusMessage
  generalize g'.elementGetBus fails pipeline = got at hbus
  obtain ⟨bus, g₁⟩ := got
  cases bus with
  | none => exact hbus.heap rfl
  | some bus => exact ((hbus.busPop bus).keeps (Gst.Keeps.refl.unref bus)).messageUnref _

namespace ProfileHost

def onBusMessage (fails : Bool) (h : ProfileHost) (g : Gst) : List Report × Gst :=
  if h.watch.busSource.isSome then h.watch.onBusMessage fails h.pipeline g else ([], g)

def process (s : ProfileHost × Gst) (m : Moment HostEvent) : ProfileHost × Gst :=
  let g := s.2.arrive s.1.pipeline m.arrived
  match m.call with
  | .dispatch during =>
    match s.1.watch.busSource with
    | some source => (s.1, (g.dispatch source (s.1.onBusMessage m.noBus) during).2)
    | none => (s.1, g)
  | call => handle (s.1, g) call

/-- Any other call goes through as it is. -/
theorem process_call (s : ProfileHost × Gst) {m : Moment HostEvent} (hm : ∀ during, m.call ≠ .dispatch during) :
    process s m = handle (s.1, s.2.arrive s.1.pipeline m.arrived) m.call := by
  unfold process
  split
  · next during hcall => exact absurd hcall (hm during)
  · rfl

end ProfileHost

namespace VideoPipeline

def onBusMessage (fails : Bool) (v : VideoPipeline) (g : Gst) : List Report × Gst :=
  if v.isPipelineSetup then v.watch.onBusMessage fails v.pipeline g else ([], g)

def process (s : VideoPipeline × Gst) (m : Moment VideoEvent) : VideoPipeline × Gst :=
  let g := s.2.arrive s.1.pipeline m.arrived
  match m.call with
  | .dispatch during =>
    match s.1.watch.busSource with
    | some source => (s.1, (g.dispatch source (s.1.onBusMessage m.noBus) during).2)
    | none => (s.1, g)
  | call => handle (s.1, g) call

/-- Any other call goes through as it is. -/
theorem process_call (s : VideoPipeline × Gst) {m : Moment VideoEvent} (hm : ∀ during, m.call ≠ .dispatch during) :
    process s m = handle (s.1, s.2.arrive s.1.pipeline m.arrived) m.call := by
  unfold process
  split
  · next during hcall => exact absurd hcall (hm during)
  · rfl

end VideoPipeline

end CameraPlatform
