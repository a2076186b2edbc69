import CameraPlatform.ApplicationMounts
import CameraPlatform.Base.Simulation
import CameraPlatform.MediaNews

/-!
# The main loop of `main`

What is printed while `run` is in the loop, and how the loop ends. Media are announced by the handlers of
their mounts. All else depends on nothing but the signals, the messages on the bus of the pipeline, the
dispatches and the turns of the loop, so an inbox foretells it. The callback of the bus gets the host for
its `self`, as everywhere here.
-/

namespace CameraPlatform
open ByteString RefHeap Gst History Simulation

/-- What is printed, and where. -/
inductive Line where
  | out (text : Bytes)
  | err (text : Bytes)
deriving DecidableEq

/-- How far the loop is. -/
inductive LoopStage where
  | running
  /-- `g_main_loop_quit` was called; the sources that are ready in this turn are still dispatched. -/
  | quit
  /-- The loop was left. -/
  | left
  /-- A signal that is not handled has ended the process. -/
  | killed
deriving DecidableEq

/-- Nothing happens in the loop any more. -/
def LoopStage.over : LoopStage → Bool
  | .running => false
  | .quit => false
  | .left => true
  | .killed => true

/-- The loop that `run` is in. -/
structure MainLoop where
  app : Application
  stage : LoopStage := .running

/-- What happens in the loop, or in another thread meanwhile. -/
inductive Wakeup where
  /-- The loop begins a new turn, unless it was quit. -/
  | iterate
  | signal (signum : Signum)
  | post (ms : List GstMessage)
  | loop (e : LoopEvent)

/-- The medium whose handlers may print a line. -/
def Wakeup.medium? : Wakeup → Option Nat
  | .loop (.bridge e) => e.medium?
  | _ => none

/-- What is printed then is not about a medium. -/
def Wakeup.isNews (w : Wakeup) : Bool := w.medium?.isNone

namespace Application

def signalSource (app : Application) : Signum → Option Nat
  | .SIGINT => app.sigintSource
  | .SIGTERM => app.sigtermSource

/-- The source of the signal is attached to the context of the loop. -/
def handles (app : Application) (signum : Signum) : Bool :=
  match app.signalSource signum, app.context with
  | some source, some context => (app.bridge.gst.attachedTo context).contains source
  | _, _ => false

/-- One dispatch of the watch of the bus, with its reports. -/
def dispatch (during : List GstMessage) (app : Application) : List Report × Application :=
  match app.host.watch.busSource with
  | some source =>
    let (reports, gst) := app.bridge.gst.dispatch source app.host.onBusMessageStatic during
    (reports, app.withGst gst)
  | none => ([], app)

theorem dispatch_snd (during : List GstMessage) (app : Application) :
    (app.dispatch during).2 = app.handle (.dispatch during) := by
  unfold dispatch handle ProfileHost.handle
  cases app.host.watch.busSource <;> rfl

end Application

namespace MainLoop

def requestStop (l : MainLoop) : MainLoop := if l.app.mainLoop.isSome then { l with stage := .quit } else l

def onPipelineEvent (event : PipelineEvent) (message : Bytes) (l : MainLoop) : List Line × MainLoop :=
  match event with
  | .Error => ([.err (ascii "Pipeline error: " ++ message ++ ascii "\n")], l.requestStop)
  | .EndOfStream => ([.out (ascii "End of stream\n")], l.requestStop)
  | .Warning => ([.out (ascii "Pipeline warning: " ++ message ++ ascii "\n")], l)

def onUnixSignal (l : MainLoop) : List Line × MainLoop := ([.out (ascii "Ctrl + C\n")], l.requestStop)

/-- The callback is called for each report. -/
def notify : List Report → MainLoop → List Line × MainLoop
  | [], l => ([], l)
  | r :: reports, l =>
    let (lines, l) := l.onPipelineEvent r.event r.text
    let (more, l) := notify reports l
    (lines ++ more, l)

def wake (l : MainLoop) : Wakeup → List Line × MainLoop
  | .iterate => ([], if l.stage = .quit then { l with stage := .left } else l)
  | .signal signum => if l.app.handles signum then l.onUnixSignal else ([], { l with stage := .killed })
  | .post ms => ([], { l with app := l.app.turn (.post ms) })
  | .loop (.dispatch during) =>
    let (reports, app) := l.app.dispatch during
    notify reports { l with app }
  | .loop (.bridge e) => ((l.app.bridge.printed e).map .out, { l with app := l.app.handle (.bridge e) })
  | .loop (.request name enabled) => ([], { l with app := l.app.handle (.request name enabled) })

def step (l : MainLoop) (w : Wakeup) : List Line × MainLoop := if l.stage.over then ([], l) else l.wake w

theorem requestStop_app (l : MainLoop) : l.requestStop.app = l.app := by
  unfold requestStop
  split <;> rfl

theorem notify_app (reports : List Report) (l : MainLoop) : (notify reports l).2.app = l.app := by
  induction reports generalizing l with
  | nil => rfl
  | cons r reports ih =>
    rw [notify, ih]
    cases r.event with
    | Error => exact l.requestStop_app
    | Warning => rfl
    | EndOfStream => exact l.requestStop_app

end MainLoop

/-- What the application has from it; a signal leaves it as it is. -/
def Wakeup.turn? : Wakeup → Option Turn
  | .iterate => none
  | .signal _ => none
  | .post ms => some (.post ms)
  | .loop e => some (.loop e)

namespace MainLoop
open Application

/-- Until the loop is over, the application takes its turns. -/
theorem step_app (l : MainLoop) (w : Wakeup) : (l.step w).2.app = if l.stage.over then l.app else
    (w.turn?.map fun t => l.app.turn t).getD l.app := by
  rw [step]
  split
  · rfl
  · cases w with
    | iterate =>
      rw [wake]
      split <;> rfl
    | signal signum =>
      rw [wake]
      split
      · exact l.requestStop_app
      · rfl
    | post ms => rfl
    | loop e =>
      cases e with
      | dispatch during =>
        rw [wake, notify_app]
        exact dispatch_snd during l.app
      | bridge e => rfl
      | request name enabled => rfl

/-- What its turns keep of the application, the loop keeps. -/
theorem carried_step {P : List LoopEvent → Application → Prop} (h : Carried P) {l : MainLoop} {es : List LoopEvent}
    (h0 : P es l.app) (w : Wakeup) : ∃ es', P es' (l.step w).2.app := by
  rw [step_app]
  split
  · exact ⟨es, h0⟩
  · cases hw : w.turn? with
    | none => exact ⟨es, h0⟩
    | some t => exact ⟨_, h.turn h0 t⟩

theorem carried_exec {P : List LoopEvent → Application → Prop} (h : Carried P) {l : MainLoop} {es : List LoopEvent}
    (h0 : P es l.app) (ws : List Wakeup) : ∃ es', P es' (exec step l ws).app := by
  induction ws generalizing l es with
  | nil => exact ⟨es, h0⟩
  | cons w ws ih =>
    obtain ⟨es', hstep⟩ := carried_step h h0 w
    exact ih hstep

end MainLoop

/-! ### What the loop comes down to -/

/-- The messages that wait, for a loop that listens to them or not. -/
structure Inbox where
  listens : Bool
  handles : Signum → Bool
  waiting : List GstMessage := []
  stage : LoopStage := .running

namespace Inbox

/-- What is printed about a message, and whether it ends the loop. -/
def news (m : GstMessage) : List Line × Bool :=
  match m.type with
  | .error => ([.err (ascii "Pipeline error: " ++ BusWatch.parseMessage m ++ ascii "\n")], true)
  | .warning => ([.out (ascii "Pipeline warning: " ++ BusWatch.parseMessage m ++ ascii "\n")], false)
  | .eos => ([.out (ascii "End of stream\n")], true)
  | .other => ([], false)

/-- The oldest message is lost, and the one behind it is read. -/
def dispatch (during : List GstMessage) (i : Inbox) : List Line × Inbox :=
  match i.waiting with
  | [] => ([], { i with waiting := during })
  | _ :: rest =>
    match rest ++ during with
    | [] => ([], { i with waiting := [] })
    | m :: rest => ((news m).1, { i with waiting := rest, stage := if (news m).2 then .quit else i.stage })

def wake (i : Inbox) : Wakeup → List Line × Inbox
  | .iterate => ([], if i.stage = .quit then { i with stage := .left } else i)
  | .signal signum =>
    if i.handles signum then ([.out (ascii "Ctrl + C\n")], { i with stage := .quit })
    else ([], { i with stage := .killed })
  | .post ms => ([], { i with waiting := i.waiting ++ ms })
  | .loop (.dispatch during) => if i.listens then i.dispatch during else ([], i)
  | .loop _ => ([], i)

def step (i : Inbox) (w : Wakeup) : List Line × Inbox := if i.stage.over then ([], i) else i.wake w

end Inbox

namespace Gst

/-- The messages that an object is or keeps. -/
def letters (o : GObject) : List Nat × Option GstMessage := (o.queue, o.message)

/-- How an object is attached. -/
def wiring (o : GObject) : (Bytes × Option Nat) × Option Nat := ((o.type, o.context), o.bus)

instance : Queueless wiring := ⟨fun _ _ => rfl⟩

/-- The messages `ms` wait on the bus. -/
structure Mail (bus : Nat) (ms : List GstMessage) (g : Gst) : Prop where
  lt : bus < g.next
  exist : ∀ x ∈ g.queue bus, x < g.next
  waiting : (g.queue bus).map g.content = ms.map some

namespace Mail
variable {bus : Nat} {ms : List GstMessage} {g g' : Gst}

/-- The same queue, of messages that say the same. -/
theorem congr (h : Mail bus ms g) (hnext : g.next ≤ g'.next) (hqueue : g'.queue bus = g.queue bus)
    (hcontent : ∀ x < g.next, g'.content x = g.content x) : Mail bus ms g' := by
  refine ⟨Nat.lt_of_lt_of_le h.lt hnext, fun x hx => ?_, ?_⟩
  · exact Nat.lt_of_lt_of_le (h.exist x (hqueue ▸ hx)) hnext
  · rw [hqueue, ← h.waiting]
    exact List.map_congr_left fun x hx => hcontent x (h.exist x hx)

theorem same (h : Mail bus ms g) (hs : Gst.Same letters g g') : Mail bus ms g' := by
  refine h.congr hs.next_le ?_ fun x hx => hs.bind (fun m => m.2) hx
  have hqueue := congrArg (Option.map fun m => m.1) (hs.read h.lt)
  rw [Option.map_map, Option.map_map] at hqueue
  exact congrArg (Option.getD · []) hqueue

theorem post (h : Mail bus ms g) (m : GstMessage) : Mail bus (ms ++ [m]) (g.post bus m) := by
  have hqueue : (g.post bus m).queue bus = g.queue bus ++ [g.next] := by rw [queue_post bus m h.lt, if_pos rfl]
  have hold : ∀ x ∈ g.queue bus, (g.post bus m).content x = g.content x := fun x hx =>
    bind_obj_post (fun _ _ => by rfl) bus m (h.exist x hx)
  have hnew : (g.post bus m).content g.next = some m := by
    have hne : g.next ≠ bus := Nat.ne_of_gt h.lt
    rw [content, Gst.post, obj_update, if_neg hne, obj_alloc, if_pos rfl]
    rfl
  refine ⟨by rw [next_post]; exact Nat.lt_succ_of_lt h.lt, fun x hx => ?_, ?_⟩
  · rw [next_post]
    rw [hqueue] at hx
    rcases List.mem_append.mp hx with hx | hx
    · exact Nat.lt_succ_of_lt (h.exist x hx)
    · rw [List.mem_singleton.mp hx]
      exact Nat.lt_succ_self _
  · rw [hqueue, List.map_append, List.map_append, List.map_congr_left hold, h.waiting, List.map_singleton, hnew]
    rfl

theorem postAll (h : Mail bus ms g) (more : List GstMessage) : Mail bus (ms ++ more) (g.postAll bus more) := by
  induction more generalizing ms g with
  | nil => rwa [List.append_nil]
  | cons m more ih =>
    have hrest := ih (h.post m)
    rwa [List.append_assoc] at hrest

theorem busPop (h : Mail bus ms g) : Mail bus ms.tail (g.busPop bus).2 := by
  have hqueue : (g.busPop bus).2.queue bus = (g.queue bus).tail := by rw [queue_busPop, if_pos rfl]
  refine ⟨by rw [next_busPop]; exact h.lt, fun x hx => ?_, ?_⟩
  · rw [next_busPop]
    exact h.exist x (List.mem_of_mem_tail (hqueue ▸ hx))
  · have hcontent : (g.busPop bus).2.content = g.content := funext fun x => bind_obj_busPop (fun _ _ => by rfl) bus x
    rw [hqueue, hcontent, List.map_tail, h.waiting, List.map_tail]

theorem posted (h : Mail bus ms g) (during : List GstMessage) :
    Mail bus (ms.tail ++ during) (BusWatch.posted g bus during) := h.busPop.postAll during

/-- The next message to be read. -/
theorem head (h : Mail bus ms g) : (g.queue bus).head?.bind g.content = ms.head? := by
  have hhead := congrArg List.head? h.waiting
  rw [List.head?_map, List.head?_map] at hhead
  cases hq : (g.queue bus).head? with
  | none =>
    rw [hq] at hhead
    cases ms with
    | nil => rfl
    | cons m ms => cases hhead
  | some x =>
    rw [hq] at hhead
    cases ms with
    | nil => cases hhead
    | cons m ms => exact Option.some.inj hhead

/-- A dispatch reports what the inbox says. -/
theorem dispatch (h : Mail bus ms g) {w : BusWatch} {callback pipeline source : Nat}
    (hl : w.Listens callback pipeline source bus g) (during : List GstMessage) :
    let res := g.dispatch source (w.onBusMessageStatic pipeline) during
    res.1.map (fun r => (r.event, r.text)) =
        ((if ms = [] then none else (ms.tail ++ during).head?).bind BusWatch.reportOf).toList ∧
      Mail bus (if ms = [] then during else (ms.tail ++ during).tail) res.2 := by
  intro res
  have hposted := h.posted during
  obtain ⟨hnext, -⟩ := hl.dispatch_keeps during
  cases hq : g.queue bus with
  | nil =>
    have hms : ms = [] := by
      have hwaiting := h.waiting
      rw [hq] at hwaiting
      exact List.map_eq_nil_iff.mp hwaiting.symm
    have hres : res = ([], BusWatch.posted g bus during) := BusWatch.dispatch_of_nil hl.ofSource hq
    rw [hres, if_pos hms, if_pos hms]
    subst hms
    exact ⟨rfl, hposted⟩
  | cons m rest =>
    have hms : ms ≠ [] := by
      rintro rfl
      have hwaiting := h.waiting
      rw [hq] at hwaiting
      cases hwaiting
    obtain ⟨hreports, hqueue, hcontent⟩ := hl.dispatch_cons during h.lt hq
    have hafter : (BusWatch.posted g bus during).queue bus = rest ++ List.range' g.next during.length := by
      rw [BusWatch.queue_posted h.lt, hq]
      rfl
    rw [if_neg hms, if_neg hms, hreports]
    refine ⟨?_, ?_⟩
    · -- the message that is read is the one behind the oldest
      have hhead := hposted.head
      rw [hafter] at hhead
      rw [← hhead]
      cases (rest ++ List.range' g.next during.length).head? with
      | none => rfl
      | some x =>
        simp only [Option.bind_some, BusWatch.report, hcontent]
        cases (Gst.content (BusWatch.posted g bus during) x).bind BusWatch.reportOf <;> rfl
    · refine ⟨?_, fun x hx => ?_, ?_⟩
      · rw [hnext]
        exact Nat.lt_add_right _ h.lt
      · rw [hnext, ← @BusWatch.next_posted g bus]
        rw [hqueue, ← hafter] at hx
        exact hposted.exist x (List.mem_of_mem_tail hx)
      · rw [hqueue, ← hafter, List.map_tail, show Gst.content _ = _ from funext hcontent, hposted.waiting, List.map_tail]

end Mail

end Gst

theorem BusWatch.Listens.same {w : BusWatch} {callback pipeline source bus : Nat} {g g' : Gst}
    (h : w.Listens callback pipeline source bus g) (hs : Gst.Same Gst.wiring g g') :
    w.Listens callback pipeline source bus g' :=
  ⟨h.appCallback, (hs.bind (fun c => c.2) (Gst.lt_of_bind h.ofPipeline)).trans h.ofPipeline,
    (hs.bind (fun c => c.1.2.bind fun _ => c.2) (Gst.lt_of_bind h.ofSource)).trans h.ofSource⟩

namespace Application

/-- The members that the loop reads. -/
structure Stays (app app' : Application) : Prop where
  mainLoop : app'.mainLoop = app.mainLoop
  context : app'.context = app.context
  sources : ∀ s, app'.signalSource s = app.signalSource s
  pipeline : app'.host.pipeline = app.host.pipeline
  watch : app'.host.watch = app.host.watch
  wiring : Gst.Same Gst.wiring app.bridge.gst app'.bridge.gst

/-- What the application listens to. -/
structure Hears (app : Application) (i : Inbox) : Prop where
  mainLoop : app.mainLoop.isSome = true
  handled : ∀ s, i.handles s = true → ∃ source c, app.signalSource s = some source ∧ app.context = some c ∧
    source ∈ app.bridge.gst.attachedTo c
  unhandled : ∀ s, i.handles s = false → app.signalSource s = none
  deaf : i.listens = false → app.host.watch.busSource = none
  mail : i.listens = true → ∃ callback source pipeline bus, app.host.watch.busSource = some source ∧
    app.host.pipeline = some pipeline ∧ app.host.watch.Listens callback pipeline source bus app.bridge.gst ∧
    Mail bus i.waiting app.bridge.gst

section
variable {app app' : Application} {i : Inbox}

theorem Hears.handles_eq (h : app.Hears i) (s : Signum) : app.handles s = i.handles s := by
  unfold handles
  cases hs : i.handles s with
  | true =>
    obtain ⟨source, c, hsource, hc, hmem⟩ := h.handled s hs
    rw [hsource, hc]
    exact List.contains_iff_mem.mpr hmem
  | false => rw [h.unhandled s hs]

/-- What leaves the wiring, and turns the messages that wait into `ms`. -/
theorem Hears.congr (h : app.Hears i) (hs : Stays app app') {ms : List GstMessage} {stage : LoopStage}
    (hmail : ∀ callback source pipeline bus, app.host.watch.busSource = some source → app.host.pipeline = some pipeline →
      app.host.watch.Listens callback pipeline source bus app.bridge.gst → i.listens = true →
      Mail bus i.waiting app.bridge.gst → Mail bus ms app'.bridge.gst) :
    app'.Hears { i with waiting := ms, stage } := by
  refine ⟨hs.mainLoop ▸ h.mainLoop, fun s hi => ?_, fun s hi => (hs.sources s).trans (h.unhandled s hi),
    fun hi => hs.watch ▸ h.deaf hi, fun hi => ?_⟩
  · obtain ⟨source, c, hsource, hc, hmem⟩ := h.handled s hi
    exact ⟨source, c, (hs.sources s).trans hsource, hs.context.trans hc, attachedTo_mono (hs.wiring.comp Prod.fst) hmem⟩
  · obtain ⟨callback, source, pipeline, bus, hsource, hp, hl, hm⟩ := h.mail hi
    exact ⟨callback, source, pipeline, bus, hs.watch ▸ hsource, hs.pipeline.trans hp, hs.watch ▸ hl.same hs.wiring,
      hmail _ _ _ _ hsource hp hl hi hm⟩

theorem stays_post (ms : List GstMessage) (app : Application) : Stays app (app.turn (.post ms)) := by
  refine ⟨rfl, rfl, fun s => by cases s <;> rfl, rfl, rfl, ?_⟩
  show Gst.Same Gst.wiring app.bridge.gst (app.bridge.gst.arrive app.host.pipeline ms)
  unfold arrive
  split
  · exact Gst.Same.refl.postAll _ ms
  · exact .refl

theorem stays_dispatch (during : List GstMessage) (app : Application) : Stays app (app.dispatch during).2 := by
  unfold dispatch
  cases app.host.watch.busSource with
  | none => exact ⟨rfl, rfl, fun s => by cases s <;> rfl, rfl, rfl, .refl⟩
  | some source =>
    exact ⟨rfl, rfl, fun s => by cases s <;> rfl, rfl, rfl,
      ProfileHost.dispatch_same (s := (app.host, app.bridge.gst)) source during⟩

theorem stays_bridge (e : BridgeEvent) (app : Application) : Stays app (app.handle (.bridge e)) :=
  ⟨rfl, rfl, fun s => by cases s <;> rfl, rfl, rfl, Bridge.step_same (fun _ _ => rfl) e⟩

theorem stays_request (name : Bytes) (enabled : Bool) (app : Application) :
    Stays app (app.handle (.request name enabled)) := by
  have hkept := @kept_setProfileEnabled _ Gst.wiring (fun _ _ => rfl) name enabled app
  exact ⟨rfl, rfl, fun s => by cases s <;> rfl, hkept.pipeline, hkept.watch, hkept.same⟩

end

end Application

namespace MainLoop
open Application

section
variable {l : MainLoop} {i : Inbox}

/-- The inbox knows what the loop is about to print. -/
structure Foretold (l : MainLoop) (i : Inbox) : Prop where
  hears : l.app.Hears i
  stage : l.stage = i.stage

theorem requestStop_eq (hloop : l.app.mainLoop.isSome = true) : l.requestStop = { l with stage := .quit } :=
  if_pos hloop

/-- A report of a message is its news. -/
theorem notify_news (hloop : l.app.mainLoop.isSome = true) {reports : List Report} {read : Option GstMessage}
    (h : reports.map (fun r => (r.event, r.text)) = (read.bind BusWatch.reportOf).toList) :
    notify reports l = ((read.map Inbox.news).elim [] Prod.fst,
      { l with stage := if (read.map Inbox.news).elim false Prod.snd then .quit else l.stage }) := by
  have hnone : reports = [] → notify reports l = ([], { l with stage := if false then .quit else l.stage }) := by
    rintro rfl
    rfl
  have hone : ∀ event text, reports.map (fun r => (r.event, r.text)) = [(event, text)] →
      notify reports l = ((l.onPipelineEvent event text).1 ++ [], (l.onPipelineEvent event text).2) := by
    intro event text h
    obtain ⟨r, rfl, hr⟩ := List.map_eq_singleton_iff.mp h
    obtain ⟨rfl, rfl⟩ := Prod.mk.inj hr
    rfl
  cases read with
  | none => exact hnone (List.map_eq_nil_iff.mp h)
  | some m =>
    rw [Option.bind_some, BusWatch.reportOf] at h
    rw [Option.map_some, Option.elim_some, Option.elim_some, Inbox.news]
    cases htype : m.type with
    | error =>
      rw [htype] at h
      rw [hone _ _ h]
      simp [onPipelineEvent, requestStop_eq hloop]
    | warning =>
      rw [htype] at h
      rw [hone _ _ h]
      simp [onPipelineEvent]
    | eos =>
      rw [htype] at h
      rw [hone _ _ h]
      simp [onPipelineEvent, requestStop_eq hloop]
    | other =>
      rw [htype] at h
      exact hnone (List.map_eq_nil_iff.mp h)

/-- What a dispatch of an inbox reads, and what it leaves. -/
theorem inbox_dispatch (during : List GstMessage) (i : Inbox) :
    let read := if i.waiting = [] then none else (i.waiting.tail ++ during).head?
    i.dispatch during = ((read.map Inbox.news).elim [] Prod.fst,
      { i with
        waiting := if i.waiting = [] then during else (i.waiting.tail ++ during).tail
        stage := if (read.map Inbox.news).elim false Prod.snd then .quit else i.stage }) := by
  unfold Inbox.dispatch
  cases i.waiting with
  | nil => simp
  | cons m rest =>
    simp only [reduceCtorEq, if_false, List.tail_cons]
    cases rest ++ during with
    | nil => rfl
    | cons m rest => rfl

theorem Foretold.dispatch (h : Foretold l i) (during : List GstMessage) :
    (l.wake (.loop (.dispatch during))).1 = (i.wake (.loop (.dispatch during))).1 ∧
      Foretold (l.wake (.loop (.dispatch during))).2 (i.wake (.loop (.dispatch during))).2 := by
  have hstays := stays_dispatch during l.app
  cases hlistens : i.listens with
  | false =>
    have hnone : l.app.dispatch during = ([], l.app) := by
      unfold Application.dispatch
      rw [h.hears.deaf hlistens]
    have hl : l.wake (.loop (.dispatch during)) = ([], l) := by
      simp only [wake, hnone, notify]
    have hi : i.wake (.loop (.dispatch during)) = ([], i) := by
      rw [Inbox.wake, hlistens]
      rfl
    rw [hl, hi]
    exact ⟨rfl, h⟩
  | true =>
    obtain ⟨callback, source, pipeline, bus, hsource, hp, hl, hm⟩ := h.hears.mail hlistens
    have hhandler : l.app.host.onBusMessageStatic = l.app.host.watch.onBusMessageStatic pipeline := by
      funext g
      rw [ProfileHost.onBusMessageStatic, hsource, hp]
    have hdispatch : l.app.dispatch during =
        ((l.app.bridge.gst.dispatch source (l.app.host.watch.onBusMessageStatic pipeline) during).1,
          l.app.withGst (l.app.bridge.gst.dispatch source (l.app.host.watch.onBusMessageStatic pipeline) during).2) := by
      rw [Application.dispatch, hsource, hhandler]
    obtain ⟨hreports, hmail⟩ := hm.dispatch hl during
    have hi : i.wake (.loop (.dispatch during)) = i.dispatch during := by
      rw [Inbox.wake, hlistens]
      rfl
    rw [hi, inbox_dispatch]
    rw [hdispatch] at hstays
    generalize l.app.bridge.gst.dispatch source (l.app.host.watch.onBusMessageStatic pipeline) during = made
      at hdispatch hreports hmail hstays
    have hloop : (l.app.withGst made.2).mainLoop.isSome = true := h.hears.mainLoop
    have hwake : l.wake (.loop (.dispatch during)) = notify made.1 { l with app := l.app.withGst made.2 } := by
      rw [wake, hdispatch]
    rw [hwake, @notify_news { l with app := l.app.withGst made.2 } hloop _ _ hreports]
    refine ⟨rfl, h.hears.congr hstays fun callback' source' pipeline' bus' hsource' hp' hl' _ _ => ?_, ?_⟩
    · obtain rfl := Option.some.inj (hp.symm.trans hp')
      obtain rfl := Option.some.inj (hl.ofPipeline.symm.trans hl'.ofPipeline)
      exact hmail
    · rw [h.stage]

/-- What an event leaves of the bus and of its watch. -/
theorem Foretold.handle (h : Foretold l i) {e : LoopEvent} (hstays : Stays l.app (l.app.handle e))
    (hletters : Gst.Same Gst.letters l.app.bridge.gst (l.app.handle e).bridge.gst) :
    Foretold { l with app := l.app.handle e } i :=
  ⟨h.hears.congr hstays fun _ _ _ _ _ _ _ _ hm => hm.same hletters, h.stage⟩

theorem Foretold.bridge (h : Foretold l i) (e : BridgeEvent) :
    Foretold { l with app := l.app.handle (.bridge e) } i :=
  h.handle (stays_bridge e l.app) (Bridge.step_same (fun _ _ => rfl) e)

/-- An inbox has the same hearing when all that changes is the stage. -/
theorem Foretold.withStage (h : Foretold l i) (stage : LoopStage) : Foretold { l with stage } { i with stage } :=
  ⟨⟨h.hears.mainLoop, h.hears.handled, h.hears.unhandled, h.hears.deaf, h.hears.mail⟩, rfl⟩

theorem Foretold.wake (h : Foretold l i) {w : Wakeup} (hw : w.isNews = true) :
    (l.wake w).1 = (i.wake w).1 ∧ Foretold (l.wake w).2 (i.wake w).2 := by
  cases w with
  | iterate =>
    rw [MainLoop.wake, Inbox.wake, h.stage]
    refine ⟨rfl, ?_⟩
    split
    · exact h.withStage .left
    · exact h
  | signal signum =>
    rw [MainLoop.wake, Inbox.wake, h.hears.handles_eq signum]
    cases i.handles signum with
    | false => exact ⟨rfl, h.withStage .killed⟩
    | true =>
      rw [if_pos rfl, if_pos rfl, onUnixSignal, requestStop_eq h.hears.mainLoop]
      exact ⟨rfl, h.withStage .quit⟩
  | post ms =>
    refine ⟨rfl, h.hears.congr (stays_post ms l.app) fun _ _ pipeline bus _ hp hl _ hm => ?_, h.stage⟩
    have harrive : (l.app.turn (.post ms)).bridge.gst = l.app.bridge.gst.postAll bus ms := by
      show l.app.bridge.gst.arrive l.app.host.pipeline ms = _
      rw [arrive, hp, Option.bind_some, hl.ofPipeline]
    rw [harrive]
    exact hm.postAll ms
  | loop e =>
    cases e with
    | dispatch during => exact h.dispatch during
    | bridge e =>
      cases e with
      | newSample sink pulled => exact ⟨rfl, h.bridge _⟩
      | configure f => exact ⟨rfl, h.bridge _⟩
      | prepared n => cases hw
      | unprepared n => cases hw
    | request name enabled =>
      exact ⟨rfl, h.handle (stays_request name enabled l.app)
        (kept_setProfileEnabled (fun _ _ => rfl) name enabled l.app).same⟩

/-- What tells of a medium is no news to the inbox. -/
theorem Foretold.medium (h : Foretold l i) {w : Wakeup} (hw : w.isNews = false) : Foretold (l.step w).2 i := by
  have hbridge : ∀ e, w = .loop (.bridge e) → Foretold (l.step w).2 i := by
    rintro e rfl
    rw [step]
    split
    · exact h
    · exact h.bridge e
  cases w with
  | iterate => cases hw
  | signal signum => cases hw
  | post ms => cases hw
  | loop e =>
    cases e with
    | dispatch during => cases hw
    | bridge e => exact hbridge e rfl
    | request name enabled => cases hw

theorem simulates_inbox : Simulates Foretold (fun w => w.isNews = true) MainLoop.step Inbox.step := by
  have hstep : ∀ (l : MainLoop) (i : Inbox) w, Foretold l i → w.isNews = true →
      (l.step w).1 = (i.step w).1 ∧ Foretold (l.step w).2 (i.step w).2 := by
    intro l i w h hw
    rw [MainLoop.step, Inbox.step, h.stage]
    split
    · exact ⟨rfl, h⟩
    · exact h.wake hw
  exact ⟨fun l i w h hw => (hstep l i w h hw).1, fun l i w h hw => (hstep l i w h hw).2⟩

theorem Foretold.run (h : Foretold l i) (ws : List Wakeup) :
    heard MainLoop.step Wakeup.isNews l ws = trace Inbox.step i (ws.filter Wakeup.isNews) ∧
      Foretold (exec MainLoop.step l ws) (exec Inbox.step i (ws.filter Wakeup.isNews)) := by
  have hunmoved : ∀ l i w, Foretold l i → w.isNews = false → Foretold (l.step w).2 i := fun _ _ _ h => h.medium
  refine ⟨?_, simulates_inbox.exec_filter hunmoved h ws⟩
  rw [simulates_inbox.heard hunmoved h ws]
  exact simulates_inbox.trace h fun w hw => (List.mem_filter.mp hw).2

end

end MainLoop

/-! ### What `main` brings into the loop -/

namespace Application
open ProfileHost

section
variable {app : Application} {faults : InitFaults} {c p bus : Nat} {ms : List GstMessage}

end

end Application

namespace MainLoop
open Application

/-- What is printed about medium `n`, and what it says of the medium. -/
theorem announced_step {l : MainLoop} {n : Nat} {news : List Bytes} (hbridged : l.app.Bridged)
    (h : l.app.bridge.Announced n news) (w : Wakeup) :
    ∃ more : List Bytes, (if w.medium? = some n then (l.step w).1 else []) = more.map .out ∧
      (l.step w).2.app.bridge.Announced n (news ++ more) := by
  -- all but the handlers of media and appsinks leave the mounts and the media
  have hquiet : w.medium? = none → (l.step w).2.app.bridge = { l.app.bridge with gst := (l.step w).2.app.bridge.gst } →
      ∃ more : List Bytes, (if w.medium? = some n then (l.step w).1 else []) = more.map .out ∧
        (l.step w).2.app.bridge.Announced n (news ++ more) := by
    intro hnone hbridge
    refine ⟨[], by rw [hnone]; rfl, ?_⟩
    rw [List.append_nil, hbridge]
    exact h.congr (Bridge.aligned_gst ..).toSameMounts rfl
  cases hover : l.stage.over with
  | true =>
    have hstep : l.step w = ([], l) := if_pos hover
    rw [hstep, ite_self]
    exact ⟨[], rfl, by rw [List.append_nil]; exact h⟩
  | false =>
    have happ := step_app l w
    rw [hover, if_neg Bool.false_ne_true] at happ
    cases w with
    | iterate => exact hquiet rfl (by rw [happ]; rfl)
    | signal signum => exact hquiet rfl (by rw [happ]; rfl)
    | post ms => exact hquiet rfl (by rw [happ]; rfl)
    | loop e =>
      cases e with
      | dispatch during => exact hquiet rfl (by rw [happ]; exact (unmoved_dispatch during l.app).bridge)
      | request name enabled => exact hquiet rfl (by rw [happ]; rfl)
      | bridge e =>
        obtain ⟨ps, hps⟩ := hbridged.traced
        have hstep : l.step (.loop (.bridge e)) =
            ((l.app.bridge.printed e).map .out, { l with app := l.app.handle (.bridge e) }) := by
          rw [step, hover]
          rfl
        refine ⟨if e.medium? = some n then l.app.bridge.printed e else [], ?_, ?_⟩
        · rw [hstep, Wakeup.medium?]
          split <;> rfl
        · rw [hstep]
          exact hps.apart.step_announced e h

theorem announced_run {l : MainLoop} {n : Nat} {news : List Bytes} (hbridged : l.app.Bridged)
    (h : l.app.bridge.Announced n news) (ws : List Wakeup) :
    ∃ more : List Bytes, (heard step (fun w => w.medium? = some n) l ws).flatten = more.map .out ∧
      (exec step l ws).app.bridge.Announced n (news ++ more) := by
  induction ws generalizing l news with
  | nil => exact ⟨[], rfl, by rw [List.append_nil]; exact h⟩
  | cons w ws ih =>
    obtain ⟨first, hfirst, hstep⟩ := announced_step hbridged h w
    obtain ⟨-, hcarried⟩ := @carried_step _ lasting_bridged.toCarried l [] hbridged w
    obtain ⟨rest, hrest, hrun⟩ := ih hcarried hstep
    refine ⟨first ++ rest, ?_, by rw [exec_cons, ← List.append_assoc]; exact hrun⟩
    rw [heard, List.map_append, ← hfirst, ← hrest]
    by_cases hw : w.medium? = some n <;> simp [hw]

/-- Before the loop, no factory has made a medium. -/
theorem lasting_unused :
    Lasting fun es app => (∀ e, LoopEvent.bridge e ∉ es) → app.bridge.media = [] := by
  refine ⟨⟨fun h hs hes => ?_, fun e _ hes => ?_, fun name enabled h hes => ?_, fun during h hes => ?_⟩,
    fun faults _ _ h hes => h hes, fun {es app} faults _ _ h hes => ?_⟩
  · rw [hs.bridge]
    exact h hes
  · exact absurd (List.mem_append_right _ (List.mem_singleton_self _)) (hes e)
  · exact h fun e he => hes e (List.mem_append_left _ he)
  · exact h fun e he => hes e (List.mem_append_left _ he)
  · obtain ⟨-, -, hmedia, -⟩ := RtspProfileServer.construct_spec proto.kRtspPort (app.setUp faults).host
      (app.setUp faults).bridge
    exact hmedia.trans (h hes)

/-- What holds of each life holds when `main` enters the loop. -/
theorem main_lasting {P : List LoopEvent → Application → Prop} (h : Lasting P) (faults : InitFaults) (playFails : Bool)
    {g : Gst} (h0 : P [] (new g)) :
    ∃ r, main faults playFails g = some r ∧ P [.request (ascii "hd") true] r.app := by
  generalize hinit : (new g).initializeWith faults = started
  obtain ⟨initialized, app⟩ := started
  have hmain := Running.main_eq playFails hinit
  have hready : P [] app := by
    have := h.react h0 (.initializeWith faults)
    rwa [show (new g).react (.initializeWith faults) = app from congrArg Prod.snd hinit] at this
  exact ⟨_, hmain, h.unmoved (h.request (ascii "hd") true hready) (unmoved_play playFails _)⟩

/-- The lines about a medium tell what became of it, under the name of the profile of the catalog whose factory made
it. -/
theorem media_announced (faults : InitFaults) (playFails : Bool) (g : Gst) :
    ∃ r, main faults playFails g = some r ∧ ∀ ws n, ∃ news : List Bytes,
      let l := exec step { app := r.app } ws
      (heard step (fun w => w.medium? = some n) { app := r.app } ws).flatten = news.map .out ∧
        l.app.bridge.Announced n news ∧
        ∀ a name, l.app.bridge.nameOf a = some name → ∃ p ∈ kDefaultCatalog, p.name = name := by
  obtain ⟨r, hmain, hbridged⟩ := main_lasting lasting_bridged faults playFails (bridged_new g)
  obtain ⟨r₁, hmain₁, hunused⟩ := main_lasting lasting_unused faults playFails (g := g) fun _ => by rw [new_eq]
  obtain ⟨r₂, hmain₂, hprofiles⟩ := main_lasting lasting_profiles faults playFails (profiles_new g)
  obtain rfl := Option.some.inj (hmain.symm.trans hmain₁)
  obtain rfl := Option.some.inj (hmain.symm.trans hmain₂)
  refine ⟨r, hmain, fun ws n => ?_⟩
  have hmedia : r.app.bridge.media = [] := hunused fun e => by simp
  have hnone : r.app.bridge.Announced n [] := (Bridge.announced_none (by rw [hmedia]; rfl)).mpr rfl
  obtain ⟨news, hnews, hannounced⟩ := @announced_run { app := r.app } n [] hbridged hnone ws
  obtain ⟨-, hrun⟩ := @carried_exec _ lasting_bridged.toCarried { app := r.app } [] hbridged ws
  obtain ⟨es, hlisted⟩ := @carried_exec _ lasting_profiles.toCarried { app := r.app } _ hprofiles ws
  refine ⟨news, hnews, hannounced, fun a name ha => ?_⟩
  have hmem : name ∈ (exec step { app := r.app } ws).app.profiles.map (·.name) := hrun.name_mem ha
  rw [hlisted, listed_names] at hmem
  exact List.mem_map.mp hmem

/-! ### Messages that come one by one -/

end MainLoop

end CameraPlatform
