import CameraPlatform.Base.ByteString
import CameraPlatform.Base.RefHeap

/-!
# The part of GStreamer and GObject the program calls

Every object lives in one reference-counted heap; a bin owns its children and a pipeline its bus.
Calls that may fail take the choice to fail as an argument and count their failures, so a run in
which no call fails is one that leaves `failures` unchanged.
-/

namespace CameraPlatform
open ByteString RefHeap

inductive GstState where
  | null
  | ready
  | paused
  | playing
deriving DecidableEq

/-- `video/x-raw` caps. -/
structure RawCaps where
  format : Bytes
  width : Int32
  height : Int32
  fpsNum : Int32
  fpsDenom : Int32
deriving DecidableEq

inductive GValue where
  | boolean (b : Bool)
  | uint (n : UInt32)
  | string (s : Bytes)
  | caps (c : RawCaps)
deriving DecidableEq

inductive Signal where
  | newSample
  | mediaConfigure
  | prepared
  | unprepared
deriving DecidableEq

/-- The functions the program connects to signals. -/
inductive Callback where
  | onNewSample
  | onMediaConfigure
  | onMediaPrepared
  | onMediaUnprepared
deriving DecidableEq

/-- One `g_signal_connect`. -/
structure Handler where
  signal : Signal
  callback : Callback
  userData : Nat
deriving DecidableEq

inductive MessageType where
  | error
  | warning
  | eos
  | other
deriving DecidableEq

/-- A bus message, with what `gst_message_parse_*` finds in it. -/
structure GstMessage where
  type : MessageType
  error : Option Bytes := none
  debug : Option Bytes := none
deriving DecidableEq

/-- A buffer; a time is absent when it is `GST_CLOCK_TIME_NONE`. -/
structure GstBuffer where
  pts : Option Nat
  dts : Option Nat
  duration : Option Nat
  data : Bytes
deriving DecidableEq

structure GstSample where
  caps : Bytes
  buffer : GstBuffer
deriving DecidableEq

/-- An object of any type; fields its type has no use for keep their defaults. -/
structure GObject where
  type : Bytes
  name : Bytes := []
  props : Bytes → Option GValue := fun _ => none
  state : GstState := .null
  handlers : List Handler := []
  /-- The target of the ghost pad `sink` of a bin. -/
  ghostSink : Option Nat := none
  /-- The bus of a pipeline, or the bus a source watches. -/
  bus : Option Nat := none
  /-- The messages on a bus, oldest first. -/
  queue : List Nat := []
  message : Option GstMessage := none
  sample : Option GstSample := none
  buffer : Option GstBuffer := none
  /-- The context a source is attached to. -/
  context : Option Nat := none
  /-- The top element of a medium. -/
  element : Option Nat := none

structure Gst where
  heap : Heap GObject
  /-- Linked elements, upstream first. -/
  links : List (Nat × Nat)
  failures : Nat
  /-- Null pointers passed where an object is needed. -/
  nullUses : Nat

/-- The C string of a `std::string` ends at its first NUL. -/
def cStr (s : Bytes) : Bytes := s.takeWhile fun c => c != 0

namespace Gst

def init : Gst := ⟨.empty, [], 0, 0⟩

variable (g : Gst)

def next : Nat := g.heap.next

def obj (r : Nat) : Option GObject := g.heap.data r

def owner (r : Nat) : Option Nat := g.heap.owner r

def alive (r : Nat) : Bool := g.heap.alive r

/-- `g_object_get` of a property that may be unset. -/
def prop (r : Nat) (key : Bytes) : Option GValue := (g.obj r).bind fun o => o.props key

def fail : Gst := { g with failures := g.failures + 1 }

def nullUse : Gst := { g with nullUses := g.nullUses + 1 }

def alloc (floating : Bool) (o : GObject) : Gst := { g with heap := g.heap.alloc floating o }

def update (r : Nat) (f : GObject → GObject) : Gst := { g with heap := g.heap.update r f }

def ref (r : Nat) : Gst := { g with heap := g.heap.ref r }

def refSink (r : Nat) : Gst := { g with heap := g.heap.refSink r }

def unref (r : Nat) : Gst := { g with heap := g.heap.unref r }

def setOwner (p r : Nat) : Gst := { g with heap := g.heap.setOwner p r }

/-! ### Objects -/

/-- `g_object_set` of one property. -/
def setObject (r : Nat) (key : Bytes) (v : GValue) : Gst :=
  g.update r fun o => { o with props := fun k => if k = key then some v else o.props k }

/-- `g_signal_connect`. -/
def connect (r : Nat) (handler : Handler) : Gst :=
  g.update r fun o => { o with handlers := o.handlers ++ [handler] }

/-- The handlers an emission of `signal` calls, in the order they were connected. -/
def handlersOf (r : Nat) (signal : Signal) : List Handler :=
  (((g.obj r).map (·.handlers)).getD []).filter fun h => h.signal = signal

/-- `gst_clear_object`, without the write of the pointer. -/
def clearObject : Option Nat → Gst
  | none => g
  | some r => g.unref r

/-! ### Elements -/

def factoryMake (fails : Bool) (type name : Bytes) : Option Nat × Gst :=
  if fails then (none, g.fail) else (some g.next, g.alloc true { type, name })

def binNew (fails : Bool) (name : Bytes) : Option Nat × Gst := g.factoryMake fails (ascii "bin") name

/-- A pipeline comes with its bus. -/
def pipelineNew (fails : Bool) (name : Bytes) : Option Nat × Gst :=
  if fails then (none, g.fail)
  else (some g.next,
    ((g.alloc true { type := ascii "pipeline", name, bus := some (g.next + 1) }).alloc false
      { type := ascii "bus" }).setOwner g.next (g.next + 1))

def name (r : Nat) : Bytes := ((g.obj r).map (·.name)).getD []

/-- A child of `bin` is already called like `e`. -/
def nameTaken (bin e : Nat) : Bool := (g.heap.children bin).any fun c => g.name c == g.name e

/-- `gst_bin_add`: an element that is refused is released if it was floating. -/
def binAdd (bin e : Nat) : Gst :=
  if e = bin ∨ g.nameTaken bin e = true then ((g.fail).refSink e).unref e
  else if (g.owner e).isSome then g.fail
  else (g.refSink e).setOwner bin e

def binAddMany (bin : Nat) (es : List Nat) : Gst := es.foldl (fun g e => g.binAdd bin e) g

/-- `gst_bin_get_by_name`, which returns a new reference. -/
def binGetByName (bin : Nat) (name : Bytes) : Option Nat × Gst :=
  match (g.heap.children bin).find? fun c => g.name c == name with
  | some c => (some c, g.ref c)
  | none => (none, g)

/-- Both elements are in one bin. -/
def sameBin (a b : Nat) : Bool := (g.owner a).isSome && g.owner a == g.owner b

/-- Link the neighbours of the list until one link fails. -/
def linkPairs : List Nat → Gst → Bool × Gst
  | a :: b :: es, g =>
    if g.sameBin a b then linkPairs (b :: es) { g with links := g.links ++ [(a, b)] } else (false, g.fail)
  | _, g => (true, g)

def linkMany (fails : Bool) (es : List Nat) : Bool × Gst := if fails then (false, g.fail) else linkPairs es g

/-- `gst_element_add_pad` of a ghost pad `sink` for the pad `sink` of `e`. -/
def addGhostSink (bin e : Nat) : Gst := g.update bin fun o => { o with ghostSink := some e }

/-- `gst_pad_link` of a new source pad of `tee` with the ghost pad of `bin`. -/
def padLink (fails : Bool) (tee bin : Nat) : Bool × Gst :=
  if !fails && ((g.obj bin).bind (·.ghostSink)).isSome && g.sameBin tee bin then
    (true, { g with links := g.links ++ [(tee, bin)] })
  else (false, g.fail)

def setState (fails : Bool) (r : Nat) (state : GstState) : Bool × Gst :=
  if fails then (false, g.fail) else (true, g.update r fun o => { o with state })

/-! ### The bus and its sources -/

/-- `gst_element_get_bus`, which returns a new reference. -/
def getBus (fails : Bool) (pipeline : Nat) : Option Nat × Gst :=
  match fails, (g.obj pipeline).bind (·.bus) with
  | false, some bus => (some bus, g.ref bus)
  | _, _ => (none, g.fail)

def busCreateWatch (fails : Bool) (bus : Nat) : Option Nat × Gst :=
  if fails then (none, g.fail)
  else (some g.next, g.alloc false { type := ascii "GSource", bus := some bus })

/-- `g_source_attach`: the context holds a reference to the source. -/
def sourceAttach (source context : Nat) : Gst :=
  (g.update source fun o => { o with context := some context }).ref source

/-- `g_source_destroy`: the source leaves its context. -/
def sourceDestroy (source : Nat) : Gst :=
  match (g.obj source).bind (·.context) with
  | some _ => (g.update source fun o => { o with context := none }).unref source
  | none => g

def queue (bus : Nat) : List Nat := ((g.obj bus).map (·.queue)).getD []

/-- `gst_bus_post`. -/
def post (bus : Nat) (m : GstMessage) : Gst :=
  (g.alloc false { type := ascii "GstMessage", message := some m }).update bus
    fun o => { o with queue := o.queue ++ [g.next] }

def postAll (bus : Nat) (ms : List GstMessage) : Gst := ms.foldl (fun g m => g.post bus m) g

/-- `gst_bus_pop`. -/
def busPop (bus : Nat) : Option Nat × Gst :=
  ((g.queue bus).head?, g.update bus fun o => { o with queue := o.queue.tail })

/-! ### RTSP media and samples -/

/-- What a media factory makes of the launch line: a medium, its bin and the appsrc in it. -/
def mediaNew : Gst :=
  let g' := ((g.alloc false { type := ascii "GstRTSPMedia", element := some (g.next + 1) }).alloc true
    { type := ascii "bin" }).alloc true { type := ascii "appsrc", name := ascii "profile_src" }
  (((g'.refSink (g.next + 1)).setOwner g.next (g.next + 1)).refSink (g.next + 2)).setOwner (g.next + 1) (g.next + 2)

/-- A pulled sample, with one reference. -/
def sampleNew (sample : GstSample) : Gst := g.alloc false { type := ascii "GstSample", sample := some sample }

/-- `gst_buffer_copy`. -/
def bufferCopy (buffer : GstBuffer) : Gst := g.alloc false { type := ascii "GstBuffer", buffer := some buffer }

/-- The three times of a buffer set to `GST_CLOCK_TIME_NONE`. -/
def bufferClearTimes (r : Nat) : Gst :=
  g.update r fun o => { o with buffer := o.buffer.map fun b => { b with pts := none, dts := none, duration := none } }

def messageUnref : Option Nat → Gst
  | none => g.nullUse
  | some m => g.unref m

end Gst

end CameraPlatform
