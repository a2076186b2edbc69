import CameraPlatform.BusHandler
import CameraPlatform.LoopRefs
import CameraPlatform.Startup

/-!
# Who links elements

Only the setup of a pipeline adds links; they start at elements that exist.
-/

namespace CameraPlatform
open ByteString RefHeap

namespace Gst

section
variable (g : Gst)

@[simp] theorem links_alloc (fl : Bool) (o : GObject) : (g.alloc fl o).links = g.links := rfl
@[simp] theorem links_update (r : Nat) (f : GObject → GObject) : (g.update r f).links = g.links := rfl
@[simp] theorem links_setObject (r : Nat) (key : Bytes) (v : GValue) : (g.setObject r key v).links = g.links := rfl
@[simp] theorem links_connect (r : Nat) (handler : Handler) : (g.connect r handler).links = g.links := rfl
@[simp] theorem links_ref (r : Nat) : (g.ref r).links = g.links := rfl
@[simp] theorem links_refSink (r : Nat) : (g.refSink r).links = g.links := rfl
@[simp] theorem links_unref (r : Nat) : (g.unref r).links = g.links := rfl
@[simp] theorem links_setOwner (p r : Nat) : (g.setOwner p r).links = g.links := rfl
@[simp] theorem links_fail : g.fail.links = g.links := rfl

@[simp] theorem links_clearObject (p : Option Nat) : (g.clearObject p).links = g.links := by
  cases p <;> rfl

@[simp] theorem links_factoryMake (fails : Bool) (type name : Bytes) :
    (g.factoryMake fails type name).2.links = g.links := by
  cases fails <;> rfl

@[simp] theorem links_pipelineNew (fails : Bool) (name : Bytes) : (g.pipelineNew fails name).2.links = g.links := by
  cases fails <;> rfl

@[simp] theorem links_binAdd (bin e : Nat) : (g.binAdd bin e).links = g.links := by
  unfold binAdd
  split
  · rfl
  · split <;> rfl

@[simp] theorem links_binAddMany (bin : Nat) (es : List Nat) : (g.binAddMany bin es).links = g.links := by
  induction es generalizing g with
  | nil => rfl
  | cons e es ih => exact (ih (g.binAdd bin e)).trans (links_binAdd ..)

@[simp] theorem links_setState (fails : Bool) (r : Nat) (state : GstState) :
    (g.setState fails r state).2.links = g.links := by
  cases fails <;> rfl

@[simp] theorem links_sourceAttach (source context : Nat) : (g.sourceAttach source context).links = g.links := rfl

@[simp] theorem links_sourceDestroy (source : Nat) : (g.sourceDestroy source).links = g.links := by
  unfold sourceDestroy
  split <;> rfl

@[simp] theorem links_postAll (bus : Nat) (ms : List GstMessage) : (g.postAll bus ms).links = g.links := by
  induction ms generalizing g with
  | nil => rfl
  | cons m ms ih => exact ih (g.post bus m)

@[simp] theorem links_messageUnref (m : Option Nat) : (g.messageUnref m).links = g.links := by
  cases m <;> rfl

@[simp] theorem links_arrive (pipeline : Option Nat) (ms : List GstMessage) : (g.arrive pipeline ms).links = g.links := by
  unfold arrive
  split <;> simp

@[simp] theorem links_getBus (fails : Bool) (pipeline : Nat) : (g.getBus fails pipeline).2.links = g.links := by
  unfold getBus
  split <;> rfl

@[simp] theorem links_busCreateWatch (fails : Bool) (bus : Nat) : (g.busCreateWatch fails bus).2.links = g.links := by
  cases fails <;> rfl

@[simp] theorem links_mainContextUnref (context : Nat) : (g.mainContextUnref context).links = g.links :=
  mainContextUnref_invariant (P := fun g' => g'.links = g.links) rfl fun g' h source _ =>
    (links_sourceDestroy g' source).trans h

@[simp] theorem links_mainLoopUnref (loop : Nat) : (g.mainLoopUnref loop).links = g.links := by
  unfold mainLoopUnref
  split
  · split <;> simp
  · rfl

end

end Gst

namespace BusWatch

@[simp] theorem links_detachBusWatch (w : BusWatch) (g : Gst) : (w.detachBusWatch g).2.links = g.links := by
  unfold detachBusWatch
  split <;> simp

theorem links_attachBusWatch (fails : WatchCall → Bool) (pipeline context callback : Nat) (w : BusWatch) (g : Gst) :
    (w.attachBusWatch fails pipeline context callback g).2.2.links = g.links := by
  have hdetach := w.links_detachBusWatch g
  unfold attachBusWatch
  generalize w.detachBusWatch g = detached at hdetach
  obtain ⟨w, g₁⟩ := detached
  have hbus := g₁.links_getBus (fails .getBus) pipeline
  simp only at hdetach ⊢
  generalize g₁.getBus (fails .getBus) pipeline = got at hbus
  obtain ⟨bus, g₂⟩ := got
  cases bus with
  | none => exact hbus.trans hdetach
  | some bus =>
    have hwatch := g₂.links_busCreateWatch (fails .createWatch) bus
    simp only
    generalize g₂.busCreateWatch (fails .createWatch) bus = made at hwatch
    obtain ⟨source, g₃⟩ := made
    cases source with
    | none => exact hwatch.trans (hbus.trans hdetach)
    | some source => exact hwatch.trans (hbus.trans hdetach)

theorem links_onBusMessageStatic (w : BusWatch) (pipeline : Nat) (g : Gst) :
    (w.onBusMessageStatic pipeline g).2.links = g.links := by
  have hbus := g.links_getBus false pipeline
  unfold onBusMessageStatic
  generalize g.getBus false pipeline = got at hbus
  obtain ⟨bus, g₁⟩ := got
  cases bus with
  | none => exact hbus
  | some bus => exact (Gst.links_messageUnref ..).trans hbus

end BusWatch

namespace Gst

theorem links_dispatch (g : Gst) (source : Nat) {handler : Gst → List Report × Gst} (during : List GstMessage)
    (hhandler : ∀ g, (handler g).2.links = g.links) : (g.dispatch source handler during).2.links = g.links := by
  unfold dispatch
  cases (g.obj source).bind fun o => o.context.bind fun _ => o.bus with
  | none => rfl
  | some bus =>
    have hpop : (g.busPop bus).2.links = g.links := rfl
    simp only
    generalize g.busPop bus = popped at hpop
    obtain ⟨msg, g₁⟩ := popped
    cases msg with
    | none => exact (links_postAll ..).trans hpop
    | some msg => exact ((links_unref ..).trans (hhandler _)).trans ((links_postAll ..).trans hpop)

theorem Steers.links {g g' : Gst} (h : g.Steers g') : g'.links = g.links := by
  cases h with
  | refl => rfl
  | fail => rfl
  | setState fails r state => exact g.links_setState fails r state

end Gst

namespace ProfileHost

theorem links_onBusMessageStatic (h : ProfileHost) (g : Gst) : (h.onBusMessageStatic g).2.links = g.links := by
  unfold onBusMessageStatic
  split
  · exact BusWatch.links_onBusMessageStatic ..
  · rfl

theorem links_setProfileEnabled (name : Bytes) (enabled : Bool) (h : ProfileHost) (g : Gst) :
    (h.setProfileEnabled name enabled g).2.2.links = g.links := by
  unfold setProfileEnabled ProfileBin.setDrop
  split
  · rfl
  · simp only
    split
    · split <;> rfl
    · rfl

theorem links_attachBusWatch (fails : WatchCall → Bool) (context callback : Option Nat) (h : ProfileHost) (g : Gst) :
    (h.attachBusWatch fails context callback g).2.2.links = g.links := by
  unfold attachBusWatch
  split
  · split
    · exact BusWatch.links_attachBusWatch ..
    · rfl
  · rfl

end ProfileHost

namespace Bridge

theorem links_withMount {b : Bridge} {callback : Callback} {a : Nat} {body : Mount → Mount × Gst × List Action}
    (hbody : ∀ mount, (body mount).2.1.links = b.gst.links) : (b.withMount callback a body).gst.links = b.gst.links := by
  unfold withMount
  split
  · exact hbody _
  · rfl

theorem links_configureMount (g : Gst) (media address : Nat) (mount : Mount) :
    (configureMount g media address mount).2.1.links = g.links := by
  unfold configureMount
  cases (g.obj media).bind (·.element) with
  | none => rfl
  | some bin =>
    simp only [Gst.links_connect]
    unfold Gst.binGetByName
    split <;> rfl

theorem links_pullInto (g : Gst) (sink : Nat) (pulled : Option GstSample) (mount : Mount) :
    (pullInto g sink pulled mount).2.1.links = g.links := by
  unfold pullInto
  cases pulled with
  | none => rfl
  | some sample => cases mount.appSrc <;> rfl

theorem links_invoke (e : Emission) (b : Bridge) (h : Handler) : (invoke e b h).gst.links = b.gst.links := by
  unfold invoke
  split
  · exact links_withMount fun mount => links_pullInto ..
  · exact links_withMount fun mount => links_configureMount ..
  · exact links_withMount fun mount => rfl
  · exact links_withMount fun mount => Gst.links_clearObject ..
  · rfl

theorem links_emit (e : Emission) (b : Bridge) : (b.emit e).gst.links = b.gst.links :=
  emit_invariant (P := fun b' => b'.gst.links = b.gst.links) rfl fun b' h hb => (links_invoke e b' h).trans hb

theorem links_step (b : Bridge) (e : BridgeEvent) : (b.step e).gst.links = b.gst.links := by
  unfold step
  split
  · split
    · exact links_emit ..
    · rfl
  · split
    · exact links_emit ..
    · rfl
  · split
    · split
      · exact links_emit ..
      · rfl
    · rfl
  · split
    · split
      · exact links_emit ..
      · rfl
    · rfl

end Bridge

namespace RtspProfileServer

theorem links_addMount (h : ProfileHost) (mountPoints : Nat) (name : Bytes) (b : Bridge) :
    (addMount h mountPoints name b).gst.links = b.gst.links := by
  unfold addMount
  cases h.appSinkForProfile name <;> rfl

theorem links_construct (port : UInt16) (h : ProfileHost) (b : Bridge) :
    (construct port h b).2.gst.links = b.gst.links := by
  have hserver : (withServer port b).gst.links = b.gst.links := rfl
  have hmounts : (withMounts port h b).gst.links = b.gst.links :=
    addMounts_invariant h _ (fun b' => b'.gst.links = b.gst.links) hserver
      (fun b' name hb => (links_addMount h _ name b').trans hb) h.profiles
  exact hmounts

theorem links_attach (error : Option Bytes) (context : Nat) (s : RtspProfileServer) (g : Gst) :
    (s.attach error context g).2.2.links = g.links := by
  unfold attach
  split
  · rfl
  · split
    · rfl
    · split <;> rfl

end RtspProfileServer

theorem Application.links_attachSignalSource (fails : Bool) (context : Nat) (g : Gst) :
    (attachSignalSource fails context g).2.links = g.links := by
  cases fails <;> rfl

end CameraPlatform
