import CameraPlatform.Gst

/-!
# The bus watch of `ProfileHost` and `VideoPipeline`

Both classes install, drop and answer their watch with the same code; they differ in the guard at
the top of the handler.
-/

namespace CameraPlatform
open ByteString RefHeap

structure PipelineOutcome where
  ok : Bool := false
  error : Bytes := []
deriving DecidableEq

namespace PipelineOutcome

def success : PipelineOutcome := { ok := true }

def failure (reason : String) : PipelineOutcome := { error := ascii reason }

@[simp] theorem ok_success : success.ok = true := rfl

@[simp] theorem ok_failure (reason : String) : (failure reason).ok = false := rfl

end PipelineOutcome

inductive PipelineEvent where
  | Error
  | Warning
  | EndOfStream
deriving DecidableEq

/-- One call of an application callback, with the message that caused it. -/
structure Report where
  callback : Nat
  message : Nat
  event : PipelineEvent
  text : Bytes
deriving DecidableEq

/-- The calls of `attachBusWatch` that may fail. -/
inductive WatchCall where
  | getBus
  | createWatch
deriving DecidableEq

/-- `m_appCallback` and `m_busSource`. -/
structure BusWatch where
  appCallback : Option Nat := none
  busSource : Option Nat := none
deriving DecidableEq

namespace BusWatch

def detachBusWatch (w : BusWatch) (g : Gst) : BusWatch × Gst :=
  match w.busSource with
  | some source => ({ w with busSource := none }, (g.sourceDestroy source).unref source)
  | none => (w, g)

/-- `attachBusWatch` after its guards. -/
def attachBusWatch (fails : WatchCall → Bool) (pipeline context callback : Nat) (w : BusWatch) (g : Gst) :
    PipelineOutcome × BusWatch × Gst :=
  let (w, g) := w.detachBusWatch g
  match g.getBus (fails .getBus) pipeline with
  | (none, g) => (.failure "Failed to get bus from pipeline", w, g)
  | (some bus, g) =>
    match g.busCreateWatch (fails .createWatch) bus with
    | (none, g) => (.failure "Failed to create bus watch", { w with busSource := none }, g)
    | (some source, g) =>
      (.success, { appCallback := some callback, busSource := some source },
        (g.sourceAttach source context).unref bus)

def parseMessage (m : GstMessage) : Bytes :=
  m.error.getD (ascii "unknown") ++
    match m.debug with
    | some debug => ascii ": " ++ debug
    | none => []

/-- What a message is reported as, if at all. -/
def reportOf (m : GstMessage) : Option (PipelineEvent × Bytes) :=
  match m.type with
  | .error => some (.Error, parseMessage m)
  | .warning => some (.Warning, parseMessage m)
  | .eos => some (.EndOfStream, ascii "End of Stream")
  | .other => none

def handleBusMessage (w : BusWatch) (g : Gst) (msg : Nat) : List Report :=
  match w.appCallback, (g.obj msg).bind (·.message) with
  | some callback, some m =>
    match reportOf m with
    | some (event, text) => [⟨callback, msg, event, text⟩]
    | none => []
  | _, _ => []

/-- `onBusMessageStatic` after its guard: the handler pops a message of its own. -/
def onBusMessageStatic (w : BusWatch) (pipeline : Nat) (g : Gst) : List Report × Gst :=
  match g.getBus false pipeline with
  | (none, g) => ([], g)
  | (some bus, g) =>
    let (msg, g) := g.busPop bus
    let g := g.unref bus
    let reports := match msg with
      | some msg => w.handleBusMessage g msg
      | none => []
    (reports, g.messageUnref msg)

theorem detachBusWatch_fst (w : BusWatch) (g : Gst) : (w.detachBusWatch g).1 = { w with busSource := none } := by
  obtain ⟨appCallback, busSource⟩ := w
  cases busSource <;> rfl

end BusWatch

/-- One dispatch of a watch source that is attached: it pops the oldest message, calls the installed
function and drops the message. The messages of `during` are posted after that pop. -/
def Gst.dispatch (g : Gst) (source : Nat) (handler : Gst → List Report × Gst) (during : List GstMessage) :
    List Report × Gst :=
  match (g.obj source).bind fun o => o.context.bind fun _ => o.bus with
  | none => ([], g)
  | some bus =>
    match g.busPop bus with
    | (none, g) => ([], g.postAll bus during)
    | (some msg, g) =>
      let (reports, g) := handler (g.postAll bus during)
      (reports, g.unref msg)

end CameraPlatform
