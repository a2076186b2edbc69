import CameraPlatform.ApplicationStart

/-!
# Is the server up while the loop runs?

`main` has a loop before anything can fail, and drops the outcomes of `initialize` and `play`. It enters
the loop in any case, and the loop then serves exactly when none of the calls failed that the setup, the
sources and the change to PLAYING depend on.
-/

namespace CameraPlatform
open ByteString RefHeap Gst History

/-- What happens while the loop runs: the watch of the bus is dispatched, appsinks and media emit their
signals, and the control interface is called. -/
inductive LoopEvent where
  | dispatch (during : List GstMessage)
  | bridge (e : BridgeEvent)
  | request (name : Bytes) (enabled : Bool)

namespace Application

def handle (app : Application) : LoopEvent → Application
  | .dispatch during =>
    let (host, gst) := ProfileHost.handle (app.host, app.bridge.gst) (.dispatch during)
    { app with host, bridge := { app.bridge with gst } }
  | .bridge e => { app with bridge := app.bridge.step e }
  | .request name enabled => (app.setProfileEnabled name enabled).2

/-- The pipeline is set up, and its watch and the source of the server are attached to the context. -/
structure Listening (app : Application) (c : Nat) : Prop where
  isLinked : app.host.isLinked = true
  context : app.context = some c
  busSource : ∃ s, app.host.watch.busSource = some s ∧ s ∈ app.bridge.gst.attachedTo c
  server : ServerWatched c app

/-- The state of the pipeline. -/
def pipelineState (app : Application) : Option GstState :=
  (app.host.pipeline.bind app.bridge.gst.obj).map (·.state)

end Application

namespace Running

def step (r : Running) (e : LoopEvent) : Running := { r with app := r.app.handle e }

/-- No start-up failure was passed over. -/
structure Serving (r : Running) : Prop where
  initialized : r.initialized = true
  played : r.played.ok = true
  listening : ∃ c, r.app.Listening c
  playing : r.app.pipelineState = some .playing

end Running

/-! ### What the loop leaves alone -/

namespace Application
open ProfileHost

variable {α : Type} {f : GObject → α} {app app' : Application} {faults : InitFaults} {c : Nat}

/-- The members the loop relies on, and what shows in `f`. -/
structure Kept (f : GObject → α) (app app' : Application) : Prop where
  context : app'.context = app.context
  mainLoop : app'.mainLoop = app.mainLoop
  rtsp : app'.rtsp = app.rtsp
  isLinked : app'.host.isLinked = app.host.isLinked
  pipeline : app'.host.pipeline = app.host.pipeline
  watch : app'.host.watch = app.host.watch
  same : Gst.Same f app.bridge.gst app'.bridge.gst

/-- The tags of an object and its state. -/
def shown (o : GObject) : (Bytes × Option Nat) × GstState := ((o.type, o.context), o.state)

instance : Queueless shown := ⟨fun _ _ => rfl⟩

/-- What shows in `f` shows in what is computed from it. -/
theorem Kept.comp {β : Type} (h : Kept f app app') (view : α → β) : Kept (fun o => view (f o)) app app' := by
  refine ⟨h.context, h.mainLoop, h.rtsp, h.isLinked, h.pipeline, h.watch, h.same.next_le, fun {x} hx => ?_⟩
  have hread := congrArg (Option.map view) (h.same.read hx)
  rwa [Option.map_map, Option.map_map] at hread

theorem Listening.congr (h : app.Listening c) (hk : Kept (fun o => (o.type, o.context)) app app') :
    app'.Listening c := by
  obtain ⟨s, hs, hmem⟩ := h.busSource
  obtain ⟨r, source, hr, hsource, hserver⟩ := h.server
  exact ⟨hk.isLinked.trans h.isLinked, hk.context.trans h.context,
    ⟨s, by rw [hk.watch]; exact hs, attachedTo_mono hk.same hmem⟩, r, source, hk.rtsp.trans hr, hsource,
    attachedTo_mono hk.same hserver⟩

theorem pipelineState_congr (hk : Kept shown app app') {state : GstState} (h : app.pipelineState = some state) :
    app'.pipelineState = some state := by
  unfold pipelineState at h ⊢
  obtain ⟨o, ho, rfl⟩ := Option.map_eq_some_iff.mp h
  obtain ⟨p, hp, hobj⟩ := Option.bind_eq_some_iff.mp ho
  obtain ⟨o', ho', heq⟩ := hk.same.exists_obj hobj
  rw [hk.pipeline, hp, Option.bind_some, ho']
  exact congrArg some (Prod.mk.inj heq).2

theorem kept_setProfileEnabled (hf : ∀ (o : GObject) props, f { o with props } = f o) (name : Bytes) (enabled : Bool)
    (app : Application) : Kept f app (app.setProfileEnabled name enabled).2 := by
  obtain ⟨hsame, -, hpipeline⟩ := @setProfileEnabled_same (app.host, app.bridge.gst) _ f hf name enabled
  refine ⟨rfl, rfl, rfl, ?_, hpipeline, ?_, hsame⟩
  · simp only [Application.setProfileEnabled, ProfileHost.setProfileEnabled]
    split <;> rfl
  · simp only [Application.setProfileEnabled, ProfileHost.setProfileEnabled]
    split <;> rfl

theorem kept_handle (app : Application) (e : LoopEvent) : Kept shown app (app.handle e) := by
  cases e with
  | dispatch during =>
    unfold handle ProfileHost.handle
    cases hs : app.host.watch.busSource with
    | none => exact ⟨rfl, rfl, rfl, rfl, rfl, rfl, .refl⟩
    | some source =>
      have hsame := @dispatch_same (app.host, app.bridge.gst) _ shown _ source during
      exact ⟨rfl, rfl, rfl, rfl, rfl, rfl, hsame⟩
  | bridge e => exact ⟨rfl, rfl, rfl, rfl, rfl, rfl, Bridge.step_same (fun _ _ => rfl) e⟩
  | request name enabled => exact kept_setProfileEnabled (fun _ _ => rfl) name enabled app

end Application

namespace Running
open Application ProfileHost

variable {r : Running} {faults : InitFaults}

theorem Serving.step (h : r.Serving) (e : LoopEvent) : (r.step e).Serving := by
  have hkept := kept_handle r.app e
  obtain ⟨c, hc⟩ := h.listening
  exact ⟨h.initialized, h.played, ⟨c, hc.congr (hkept.comp Prod.fst)⟩, pipelineState_congr hkept h.playing⟩

/-! ### What `main` brings into the loop -/

/-- `main` always enters the loop. -/
theorem main_eq (playFails : Bool) {g : Gst} {initialized : Bool} {app : Application}
    (h : (new g).initializeWith faults = (initialized, app)) :
    let played := (app.setProfileEnabled (ascii "hd") true).2.play playFails
    main faults playFails g = some { initialized, played := played.1, app := played.2 } := by
  obtain ⟨-, -, hloop, -⟩ := initializeWith_cases faults g
  have hkept := @kept_setProfileEnabled _ (fun _ => ()) (fun _ _ => rfl) (ascii "hd") true app
  unfold main
  simp only [h] at hloop ⊢
  generalize app.setProfileEnabled (ascii "hd") true = switched at hkept
  have hmain : (switched.2.play playFails).2.mainLoop = some (g.next + 1) := hkept.mainLoop.trans hloop
  rw [hmain]
  rfl

/-- With its pipeline set up, the application plays unless the call fails. -/
theorem play_spec {app : Application} {p : Nat} (hlinked : app.host.isLinked = true) (hp : app.host.pipeline = some p)
    (hlt : p < app.bridge.gst.next) :
    (∀ fails, (app.play fails).1.ok = !fails) ∧
      Kept (fun o => (o.type, o.context)) app (app.play false).2 ∧
      (app.play false).2.pipelineState = some .playing := by
  have hplay : ∀ fails, app.play fails = (if (app.bridge.gst.setState fails p .playing).1 then .success
      else .failure "Failed to set pipeline to PLAYING", app.withGst (app.bridge.gst.setState fails p .playing).2) := by
    intro fails
    simp only [Application.play, ProfileHost.play, setPipelineState, hlinked, hp, if_true]
  obtain ⟨o, ho⟩ : ∃ o, app.bridge.gst.obj p = some o := ⟨_, congrArg (Option.map _) (List.getElem?_eq_getElem hlt)⟩
  refine ⟨fun fails => ?_, ?_, ?_⟩
  · rw [hplay]
    cases fails <;> rfl
  · rw [hplay]
    exact ⟨rfl, rfl, rfl, rfl, rfl, rfl, Gst.Same.refl.update _ fun _ => by rfl⟩
  · rw [hplay]
    show (app.host.pipeline.bind (app.bridge.gst.update p fun o => { o with state := .playing }).obj).map _ = _
    rw [hp, Option.bind_some, obj_update, if_pos rfl, ho]
    rfl

/-- The loop of `main` serves, whatever happens in it, if and only if no call fails that sets up the
pipeline, watches its bus, attaches the server or starts the pipeline. -/
theorem main_serves_iff (faults : InitFaults) (playFails : Bool) (g : Gst) :
    (∀ r, main faults playFails g = some r → ∀ events, (run step r events).Serving) ↔
      Watched faults ∧ faults.attach = none ∧ playFails = false := by
  obtain ⟨b, hstarted, -, hcases⟩ := initializeWith_cases faults g
  generalize hinit : (new g).initializeWith faults = started at hstarted hcases
  obtain ⟨initialized, app⟩ := started
  have hmain := main_eq playFails hinit
  have hkept : ∀ {α : Type} {f : GObject → α}, (∀ (o : GObject) props, f { o with props } = f o) →
      Kept f app (app.setProfileEnabled (ascii "hd") true).2 := fun hf => kept_setProfileEnabled hf ..
  simp only at hmain hcases
  generalize (app.setProfileEnabled (ascii "hd") true).2 = switched at hmain hkept
  have hkept := @hkept _ (fun o => (o.type, o.context)) fun _ _ => rfl
  rcases hcases with ⟨hwatched, hfalse, -⟩ | ⟨hwatched, ⟨s, -, hs, hmem⟩, hiff, hserver, hlinked, p, hp, hlt⟩
  · refine iff_of_false (fun h => ?_) fun h => hwatched h.1
    have hserving := h _ hmain []
    exact absurd (hfalse.symm.trans hserving.initialized) (by simp)
  · obtain ⟨hok, hplayed, hplaying⟩ := play_spec (hkept.isLinked.trans hlinked) (hkept.pipeline.trans hp)
      (Nat.lt_of_lt_of_le hlt hkept.same.next_le)
    constructor
    · intro h
      have hserving := h _ hmain []
      have hplay : (!playFails) = true := (hok playFails).symm.trans hserving.played
      exact ⟨hwatched, hiff.mp hserving.initialized, by simpa using hplay⟩
    · rintro ⟨-, hattach, rfl⟩ r hr events
      obtain rfl := Option.some.inj (hmain.symm.trans hr)
      have hlistening : app.Listening g.next := ⟨hlinked, hstarted.context, ⟨s, hs, hmem⟩, hserver hattach⟩
      exact run_invariant ⟨hiff.mpr hattach, hok false, ⟨g.next, (hlistening.congr hkept).congr hplayed⟩, hplaying⟩
        (fun r e h => h.step e) events

/-- The port of the server is in use: `main` enters the loop all the same. -/
theorem main_idle :
    ¬ ∀ r, main ⟨fun _ => false, ⟨fun _ => false, fun _ _ => false⟩, fun _ => false, some (ascii "Address already in use")⟩
      false .init = some r → ∀ events, (run step r events).Serving := by
  intro h
  have hentered : (main ⟨fun _ => false, ⟨fun _ => false, fun _ _ => false⟩, fun _ => false,
      some (ascii "Address already in use")⟩ false .init).map (·.initialized) = some false := by decide +kernel
  obtain ⟨r, hr, hfalse⟩ := Option.map_eq_some_iff.mp hentered
  exact absurd (hfalse.symm.trans (h r hr []).initialized) (by simp)

end Running

end CameraPlatform
